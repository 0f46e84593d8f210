import VolumePlugin.Capability
import VolumePlugin.Capacity
import VolumePlugin.Controller.Job
import VolumePlugin.Handle
import VolumePlugin.Label
import VolumePlugin.Message.Controller
import VolumePlugin.Text.Blank

/-! The controller service: the life of volumes at the provider. The service remembers nothing. Each
request reads how things are and does what is still missing, so a repeated request does no harm. -/

namespace VolumePlugin

/-- The settings of the controller service. -/
structure Controller where
  /-- The region of volumes for which no topology is asked. -/
  region : String
  labelPrefix : Option String
  deriving DecidableEq, Repr, Inhabited

namespace Controller

/-- What a request wants a volume to be like. -/
structure Wanted where
  label : String
  region : String
  /-- The size in GiB. -/
  size : Nat
  deriving DecidableEq, Repr

def requireCapabilities (caps : List VolumeCapability) : Except CsiError Unit :=
  if caps.isEmpty then .error (.invalidArgument "volume capabilities are required") else .ok ()

/-- What a request for a volume asks for, or the first thing that is wrong with it. -/
def wanted (c : Controller) (req : CreateVolumeRequest) : Except CsiError Wanted := do
  requireText "volume name" req.name
  requireCapabilities req.volumeCapabilities
  req.volumeCapabilities.forM fun cap => do
    let _ ← VolumeCapability.requireSingleNodeWriter (some cap)
  let size ← (Capacity.resolve req.capacityRange).mapError Capacity.RangeError.toCsi
  let region := (req.accessibilityRequirements.bind TopologyRequirement.region?).getD c.region
  if region = "" then
    throw (.invalidArgument "no region in the topology requirement and none configured")
  return ⟨Label.normalized req.name c.labelPrefix, region, size⟩

def asksForEncryption (parameters : Attributes) : Bool :=
  match parameters.get? Setting.luksEncrypted with
  | some v => Text.lowerAscii v = "true"
  | none => false

/-- The settings that the node needs later, out of the parameters: how to encrypt, if that is asked
for, and which partition to use. -/
def volumeContext (parameters : Attributes) : Attributes :=
  let luks := if asksForEncryption parameters then
    [Setting.luksEncrypted, Setting.luksCipher, Setting.luksKeySize] else []
  parameters.restrict (luks ++ [Setting.partition])

def volumeTags (parameters : Attributes) : List String :=
  match parameters.get? Setting.volumeTags with
  | none => []
  | some tags =>
    ((Text.pieces ',' tags.toList).map fun t => Text.trim (String.ofList t)).filter (· ≠ "")

/-- A volume that has the label already is the wanted one if its region and size are as wanted. -/
def checkExisting (w : Wanted) (existing : RemoteVolume) : Except CsiError Unit :=
  if existing.region ≠ w.region then
    .error (.volumeAlreadyExists
      s!"{existing.label} in region {existing.region}, requested {w.region}")
  else if existing.size ≠ w.size then
    .error (.volumeAlreadyExists
      s!"{existing.label} with size {existing.size} GiB, requested {w.size} GiB")
  else .ok ()

/-- Takes a volume that is there already, once it is ready for use. -/
def reuse (w : Wanted) (existing : RemoteVolume) : Job RemoteVolume := do
  Job.ofExcept (checkExisting w existing)
  if existing.status = .active then return existing
  else Job.waitActive existing.id

def noSource (handle : String) : CsiError :=
  .notFound s!"source volume {handle}"

/-- A volume can be cloned within its region, to at least its own size. -/
def checkSource (w : Wanted) (source : RemoteVolume) : Except CsiError Unit :=
  if source.region ≠ w.region then
    .error (.invalidArgument
      s!"source volume is in region {source.region}, clone requested in {w.region}")
  else if w.size < source.size then
    .error (.invalidArgument
      s!"requested {w.size} GiB is smaller than the {source.size} GiB source")
  else .ok ()

/-- Makes the wanted volume out of another one: clones it, and then resizes the clone. -/
def cloneFrom (w : Wanted) (handle : String) : Job RemoteVolume := do
  let key ← Job.ofExcept ((VolumeKey.parse handle).mapError fun _ => noSource handle)
  match ← Job.attempt (.getVolume key.volume) with
  | .error e => throw (if e.isNotFound then noSource handle else .cloud e)
  | .ok source =>
    Job.ofExcept (checkSource w source)
    let clone ← Job.call (.cloneVolume source.id w.label)
    let volume ← Job.waitActive clone.id
    if volume.size = w.size then return volume
    else
      Job.call (.resizeVolume volume.id w.size)
      Job.waitActive volume.id

def createBlank (w : Wanted) (parameters : Attributes) : Job RemoteVolume := do
  let created ← Job.call (.createVolume ⟨w.label, w.region, w.size, volumeTags parameters⟩)
  Job.waitActive created.id

/-- The wanted volume, made if no volume has its label yet. -/
def obtain (w : Wanted) (req : CreateVolumeRequest) : Job RemoteVolume := do
  match ← Job.calls (Cloud.findVolume w.label) with
  | some existing => reuse w existing
  | none =>
    match req.volumeContentSource.bind (·.type) with
    | some (.snapshot _) =>
      throw (.invalidArgument "snapshot content sources are not supported")
    | some (.volume source) => cloneFrom w source.volumeId
    | none => createBlank w req.parameters

def handleOf (v : RemoteVolume) : String :=
  VolumeKey.handle ⟨v.id, v.label⟩

/-- Makes a volume, unless there is one of its name. -/
def createVolume (c : Controller) (req : CreateVolumeRequest) : Job CreateVolumeResponse := do
  let w ← Job.ofExcept (c.wanted req)
  let volume ← obtain w req
  return { volume := some {
    capacityBytes := Capacity.reported volume.size
    volumeId := handleOf volume
    volumeContext := volumeContext req.parameters
    contentSource := req.volumeContentSource
    accessibleTopology := [Topology.ofRegion volume.region] } }

/-- Deletes a volume, if it is there. -/
def deleteVolume (req : DeleteVolumeRequest) : Job DeleteVolumeResponse := do
  Job.ofExcept (requireText "volume id" req.volumeId)
  let id := volumeNumber req.volumeId
  match ← Job.attempt (.getVolume id) with
  | .error e => if e.isNotFound then return {} else throw (.cloud e)
  | .ok volume =>
    if let some target := volume.attachment then
      throw (.failedPrecondition s!"volume {id} is still attached to instance {target}")
    match ← Job.attempt (.deleteVolume id) with
    | .error e => if e.isNotFound then return {} else throw (.cloud e)
    | .ok _ => return {}

/-- What the node needs of an attached volume. -/
def published (v : RemoteVolume) : ControllerPublishVolumeResponse :=
  { publishContext := .single Setting.devicePath v.devicePath }

/-- Reads a volume that must be there. -/
def existingVolume (handle : String) : Job RemoteVolume := do
  match ← Job.attempt (.getVolume (volumeNumber handle)) with
  | .error e => throw (if e.isNotFound then .volumeNotFound handle else .cloud e)
  | .ok volume => return volume

/-- Attaches a detached volume, and waits until that shows. -/
def attach (volume target : Nat) : Job ControllerPublishVolumeResponse := do
  if let .error e ← Job.attempt (.getInstance target) then
    throw (if e.isNotFound then .notFound s!"instance {target}" else .cloud e)
  match ← Job.attempt (.attachVolume volume target) with
  | .error (.alreadyAttached _) =>
    throw (.unavailable s!"volume {volume} was attached concurrently, retry")
  | .error e => throw (if e.isNotFound then .notFound e.message else .cloud e)
  | .ok _ => return published (← Job.wait volume (.attachment (some target)))

/-- Attaches a volume to a node, unless it is attached to a node already. -/
def publishVolume (req : ControllerPublishVolumeRequest) :
    Job ControllerPublishVolumeResponse := do
  Job.ofExcept (requireText "volume id" req.volumeId)
  Job.ofExcept (requireText "node id" req.nodeId)
  let _ ← Job.ofExcept (VolumeCapability.requireSingleNodeWriter req.volumeCapability)
  let id := volumeNumber req.volumeId
  let target := instanceNumber req.nodeId
  let volume ← existingVolume req.volumeId
  match volume.attachment with
  | some current =>
    if current = target then return published volume
    else throw (.alreadyExists s!"volume {id} is attached to instance {current}")
  | none => attach id target

/-- Whether a request to detach a volume from a node concerns an attachment. The empty node id
stands for every node. -/
def concerns (nodeId : String) (current : Nat) : Bool :=
  nodeId = "" || current = instanceNumber nodeId

/-- Detaches a volume, and waits until that shows. -/
def detach (volume : Nat) : Job ControllerUnpublishVolumeResponse := do
  match ← Job.attempt (.detachVolume volume) with
  | .error e => if e.isNotFound then return {} else throw (.cloud e)
  | .ok _ =>
    let _ ← Job.wait volume (.attachment none)
    return {}

/-- Detaches a volume from a node, if it is attached to it. -/
def unpublishVolume (req : ControllerUnpublishVolumeRequest) :
    Job ControllerUnpublishVolumeResponse := do
  Job.ofExcept (requireText "volume id" req.volumeId)
  let id := volumeNumber req.volumeId
  match ← Job.attempt (.getVolume id) with
  | .error e => if e.isNotFound then return {} else throw (.cloud e)
  | .ok volume =>
    match volume.attachment with
    | none => return {}
    | some current => if concerns req.nodeId current then detach id else return {}

def expandedSize (req : ControllerExpandVolumeRequest) : Except CsiError Nat := do
  requireText "volume id" req.volumeId
  match req.capacityRange with
  | none => throw (.invalidArgument "capacity range is required")
  | some range => (Capacity.resolve (some range)).mapError Capacity.RangeError.toCsi

/-- Makes a volume larger, unless it has the size already. -/
def expandVolume (req : ControllerExpandVolumeRequest) :
    Job ControllerExpandVolumeResponse := do
  let size ← Job.ofExcept (expandedSize req)
  let id := volumeNumber req.volumeId
  let volume ← existingVolume req.volumeId
  if size < volume.size then
    throw (.internal s!"volume {id} is {volume.size} GiB and cannot shrink to {size} GiB")
  if volume.size < size then
    Job.call (.resizeVolume id size)
    let _ ← Job.waitActive id
  return {
    capacityBytes := Capacity.reported size
    nodeExpansionRequired := !req.volumeCapability.any VolumeCapability.isBlock }

/-- The number of the page that a token stands for. The empty token stands for the first page. -/
def pageOfToken (token : String) : Except CsiError Nat :=
  if token = "" then .ok 1
  else match Text.readUnsigned Text.halfWordBound token.toList with
    | .ok page => .ok page
    | .error cause => .error (.aborted s!"starting token {Text.quoted token}: {cause.message}")

def listOptions (req : ListVolumesRequest) : Except CsiError ListOptions := do
  if req.maxEntries < 0 then
    throw (.invalidArgument "max_entries must not be negative")
  let page ← pageOfToken req.startingToken
  let size := req.maxEntries.toInt.toNat
  return { page := page, pageSize := if size = 0 then none else some size }

def listed (v : RemoteVolume) : ListedVolume :=
  { volume := some {
      capacityBytes := Capacity.reported v.size
      volumeId := handleOf v
      accessibleTopology := [Topology.ofRegion v.region] }
    status := some { publishedNodeIds := (v.attachment.map (toString ·)).toList } }

/-- The token for a page that follows, or the empty token. -/
def tokenOfPage : Option Nat → String
  | none => ""
  | some page => toString page

def listVolumes (req : ListVolumesRequest) : Job ListVolumesResponse := do
  let options ← Job.ofExcept (listOptions req)
  let page ← Job.call (.listVolumes options)
  let next ← Job.ofExcept (page.next.mapError .cloud)
  return { entries := page.items.map listed, nextToken := tokenOfPage next }

/-- Says whether a volume can be used in all of the given ways. -/
def validateCapabilities (req : ValidateVolumeCapabilitiesRequest) :
    Job ValidateVolumeCapabilitiesResponse := do
  Job.ofExcept (requireText "volume id" req.volumeId)
  Job.ofExcept (requireCapabilities req.volumeCapabilities)
  let _ ← existingVolume req.volumeId
  if req.volumeCapabilities.all VolumeCapability.isSingleNodeWriter then
    return { confirmed := some {
      volumeContext := req.volumeContext
      volumeCapabilities := req.volumeCapabilities
      parameters := req.parameters } }
  else return { message := "only SINGLE_NODE_WRITER is supported" }

/-- The numbers of what the service can do: create and delete volumes, publish and unpublish them,
list them, list the nodes they are published to, expand and clone them. -/
def abilities : List Int32 := [1, 2, 3, 10, 9, 7]

def capabilities : ControllerGetCapabilitiesResponse :=
  { capabilities := abilities.map fun n => { type := some (.rpc { type := n }) } }

end Controller

end VolumePlugin
