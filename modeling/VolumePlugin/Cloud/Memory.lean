import VolumePlugin.Cloud.Basic
import VolumePlugin.Text.Unsigned

/-! A provider that keeps everything in memory. Its answers are a function of its state, so whole
runs against it can be reasoned about. -/

namespace VolumePlugin.Cloud

/-- Puts an object into a list in the order of the identifiers, in place of the one with the same
identifier if there is one. -/
def placeById {α : Type} (id : α → Nat) (a : α) : List α → List α
  | [] => [a]
  | b :: rest =>
    if id a < id b then a :: b :: rest
    else if id a = id b then a :: rest
    else b :: placeById id a rest

/-- The state of the provider. -/
structure Memory where
  /-- The region of volumes and instances that are put in without one. -/
  region : String := "us-east"
  /-- How far identifiers have come. The next one is what a 64-bit word keeps of this. -/
  nextId : Nat := 100
  /-- The volumes in the order of their identifiers. -/
  volumes : List RemoteVolume := []
  /-- The instances in the order of their identifiers. -/
  instances : List Instance := []
  /-- The number of objects on a page for which no number is asked. -/
  pageSize : Nat := 100
  initialStatus : VolumeStatus := .active
  /-- What the next attachment fails with. -/
  attachError : Option CloudError := none
  /-- How many of the next reads of a volume do not show its attachment. -/
  hiddenReads : Nat := 0
  /-- Whether listings leave the label out of account. -/
  ignoresLabels : Bool := false
  deriving DecidableEq, Repr, Inhabited

namespace Memory

def devicePath (label : String) : String :=
  s!"/dev/disk/by-id/scsi-0Linode_Volume_{label}"

def volume? (m : Memory) (id : Nat) : Option RemoteVolume :=
  m.volumes.find? (·.id = id)

def instance? (m : Memory) (id : Nat) : Option Instance :=
  m.instances.find? (·.id = id)

/-- The provider with a volume, which takes the place of the one with its identifier. -/
def putVolume (m : Memory) (v : RemoteVolume) : Memory :=
  { m with volumes := placeById (·.id) v m.volumes }

def putInstance (m : Memory) (i : Instance) : Memory :=
  { m with instances := placeById (·.id) i m.instances }

def dropVolume (m : Memory) (id : Nat) : Memory :=
  { m with volumes := m.volumes.filter (·.id ≠ id) }

/-- The identifier of the next volume. After the greatest one they begin anew. -/
def newId (m : Memory) : Nat :=
  m.nextId % Text.wordBound

/-- The provider with a volume that gets the next identifier, whether or not another volume has it
already. -/
def addVolume (m : Memory) (make : Nat → RemoteVolume) : RemoteVolume × Memory :=
  let v := make m.newId
  (v, { m.putVolume v with nextId := m.nextId + 1 })

def noVolume (id : Nat) : CloudError :=
  .notFound s!"volume {id}"

def noInstance (id : Nat) : CloudError :=
  .notFound s!"instance {id}"

def selected {α : Type} (m : Memory) (label : α → String) (options : ListOptions)
    (objects : List α) : List α :=
  match options.label with
  | none => objects
  | some wanted => if m.ignoresLabels then objects else objects.filter (label · = wanted)

/-- The page of a listing that is asked for. There is always a first page. -/
def page {α : Type} (m : Memory) (options : ListOptions) (objects : List α) : Page α :=
  let size := max 1 (options.pageSize.getD m.pageSize)
  let page := max 1 options.page
  { items := (objects.drop ((page - 1) * size)).take size
    page := page
    pages := max 1 ((objects.length + (size - 1)) / size) }

/-- The status of a volume after it was read. -/
def settled : VolumeStatus → VolumeStatus
  | .creating | .resizing => .active
  | status => status

/-- Reading a volume shows it as it is, but without its attachment while reads hide attachments.
Afterwards what was going on with the volume is over. -/
def getVolume (m : Memory) (id : Nat) : Except CloudError RemoteVolume × Memory :=
  match m.volume? id with
  | none => (.error (noVolume id), m)
  | some v =>
    let m' := { m.putVolume { v with status := settled v.status } with
      hiddenReads := m.hiddenReads - 1 }
    (.ok (if 0 < m.hiddenReads then { v with attachment := none } else v), m')

/-- A new volume has the label, region, size and tags that are asked for. Labels may occur twice. -/
def createVolume (m : Memory) (o : CreateOptions) : Except CloudError RemoteVolume × Memory :=
  let (v, m) := m.addVolume fun id =>
    { id := id, label := o.label, size := o.size, region := o.region, status := m.initialStatus,
      attachment := none, devicePath := devicePath o.label, tags := o.tags }
  (.ok v, m)

/-- Only detached volumes can be deleted. -/
def deleteVolume (m : Memory) (id : Nat) : Except CloudError Unit × Memory :=
  match m.volume? id with
  | none => (.error (noVolume id), m)
  | some v =>
    if v.attachment.isSome then (.error (.api 400 "volume is attached"), m)
    else (.ok (), m.dropVolume id)

/-- Only detached volumes can be attached, and only to an instance that exists. -/
def attachVolume (m : Memory) (id target : Nat) : Except CloudError RemoteVolume × Memory :=
  match m.attachError with
  | some e => (.error e, { m with attachError := none })
  | none =>
    if (m.instance? target).isNone then (.error (noInstance target), m)
    else match m.volume? id with
      | none => (.error (noVolume id), m)
      | some v =>
        if v.attachment.isSome then (.error (.alreadyAttached id), m)
        else
          let v := { v with attachment := some target }
          (.ok v, m.putVolume v)

/-- Detaching a volume takes it from whatever instance has it. -/
def detachVolume (m : Memory) (id : Nat) : Except CloudError Unit × Memory :=
  match m.volume? id with
  | none => (.error (noVolume id), m)
  | some v => (.ok (), m.putVolume { v with attachment := none })

/-- Volumes do not shrink. -/
def resizeVolume (m : Memory) (id size : Nat) : Except CloudError Unit × Memory :=
  match m.volume? id with
  | none => (.error (noVolume id), m)
  | some v =>
    if size < v.size then (.error (.api 400 "volumes can only be resized up"), m)
    else (.ok (), m.putVolume { v with size := size, status := .resizing })

/-- A clone is a new volume with the size, region and tags of its source. -/
def cloneVolume (m : Memory) (id : Nat) (label : String) :
    Except CloudError RemoteVolume × Memory :=
  match m.volume? id with
  | none => (.error (noVolume id), m)
  | some source =>
    let (v, m) := m.addVolume fun id =>
      { source with
        id := id, label := label, status := m.initialStatus, attachment := none,
        devicePath := devicePath label }
    (.ok v, m)

def answer : (call : Call) → Memory → call.Answer × Memory
  | .listVolumes o, m => (.ok (m.page o (m.selected (·.label) o m.volumes)), m)
  | .getVolume id, m => m.getVolume id
  | .createVolume o, m => m.createVolume o
  | .deleteVolume id, m => m.deleteVolume id
  | .attachVolume id target, m => m.attachVolume id target
  | .detachVolume id, m => m.detachVolume id
  | .resizeVolume id size, m => m.resizeVolume id size
  | .cloneVolume id label, m => m.cloneVolume id label
  | .listInstances o, m => (.ok (m.page o (m.selected (·.label) o m.instances)), m)
  | .getInstance id, m =>
    (match m.instance? id with
      | none => .error (noInstance id)
      | some i => .ok i, m)

end Memory

end VolumePlugin.Cloud
