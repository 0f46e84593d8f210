import VolumePlugin.Cloud.Memory
import VolumePlugin.Controller.Job
import VolumePlugin.Host.Job
import VolumePlugin.Host.Memory
import VolumePlugin.Rpc
import VolumePlugin.Testbed.Fault

/-! A plugin in surroundings that are kept in memory, and what becomes of both when something is
asked of the plugin. Every call to the surroundings is put down in a journal. -/

namespace VolumePlugin.Testbed

/-- A call to the surroundings. -/
inductive Event where
  | cloud (c : Cloud.Call)
  | host (c : Host.Call)
  deriving DecidableEq, Repr

def cloudCallName : Cloud.Call → String
  | .listVolumes _ => "list_volumes"
  | .getVolume _ => "get_volume"
  | .createVolume _ => "create_volume"
  | .deleteVolume _ => "delete_volume"
  | .attachVolume .. => "attach_volume"
  | .detachVolume _ => "detach_volume"
  | .resizeVolume .. => "resize_volume"
  | .cloneVolume .. => "clone_volume"
  | .listInstances _ => "list_instances"
  | .getInstance _ => "get_instance"

def hostCallName : Host.Call → String
  | .pathExists _ => "exists"
  | .glob _ => "glob"
  | .resolveLinks _ => "eval_symlinks"
  | .makeDirectories _ => "mkdir_all"
  | .createFile _ => "create_file"
  | .remove _ => "remove"
  | .statistics _ => "statfs"
  | .run _ => "run"
  | .mount _ => "mount"
  | .unmount _ => "unmount"
  | .isMountPoint _ => "is_mount_point"
  | .mountSources _ => "mount_sources"
  | .mountTargets _ => "mount_targets"
  | .formatAndMount _ => "format_and_mount"

def cloudCallDetails : Cloud.Call → List Json
  | .listVolumes o | .listInstances o => [Spec.ofListOptions o]
  | .getVolume id | .deleteVolume id | .detachVolume id | .getInstance id => [.nat id]
  | .createVolume o => [.text o.label, .text o.region, .nat o.size, .texts o.tags]
  | .attachVolume id target => [.nat id, .nat target]
  | .resizeVolume id size => [.nat id, .nat size]
  | .cloneVolume id label => [.nat id, .text label]

/-- The details of a call to the host, if the call belongs into the journal. Calls that only look at
files and mounts do not, apart from searches. -/
def hostCallDetails? : Host.Call → Option (List Json)
  | .glob text | .makeDirectories text | .createFile text | .remove text | .unmount text =>
    some [.text text]
  | .run c => some [.texts (c.program :: c.arguments), Json.ofOption .text c.stdin]
  | .mount m | .formatAndMount m =>
    some [.text m.source, .text m.target, .text m.fsType, .texts m.options]
  | .pathExists _ | .resolveLinks _ | .statistics _ | .isMountPoint _ | .mountSources _
  | .mountTargets _ => none

def Event.toJson? : Event → Option Json
  | .cloud c => some (.array (.text (cloudCallName c) :: cloudCallDetails c))
  | .host c => (hostCallDetails? c).map fun details => .array (.text (hostCallName c) :: details)

/-- The plugin and its surroundings. -/
structure World where
  plugin : Plugin
  poller : Poller
  /-- Whether finished calls are counted. -/
  counts : Bool := true
  metrics : Metrics := {}
  cloud : Cloud.Memory := {}
  host : Host.Memory := {}
  faults : List Fault := []
  /-- The calls to the surroundings, the latest first. -/
  journal : List Event := []
  timeline : Timeline := {}
  /-- The disks that the node service has met. -/
  nodeDisks : List String := []
  /-- The disks that the search for devices has met which is asked directly. -/
  otherDisks : List String := []
  /-- Whether a mount was parked that nobody has noticed yet. -/
  parkedUnnoticed : Bool := false
  deriving Repr

namespace World

/-- Uses up a fault for a call, and puts the call down. -/
def note (w : World) (name : String) (e : Event) : Option Effect × World :=
  let (effect, faults) := Fault.take name w.faults
  (effect, { w with faults := faults, journal := e :: w.journal })

def askCloud (c : Cloud.Call) (w : World) : c.Answer × World :=
  let (effect, w) := w.note (cloudCallName c) (.cloud c)
  match effect.bind Effect.cloudFailure? with
  | some e => (.error e, w)
  | none =>
    let (answer, cloud) := Cloud.Memory.answer c w.cloud
    ((effect.getD .nothing).onCloudAnswer c answer, { w with cloud := cloud })

def askHost (c : Host.Call) (w : World) : c.Answer × World :=
  let (effect, w) := w.note (hostCallName c) (.host c)
  match effect.bind fun e => e.hostAnswer? c with
  | some answer => (answer, w)
  | none =>
    let (answer, host) := Host.Memory.answer c w.host
    (answer, { w with host := host })

/-- How many reads of a volume there may be before it shows what it will always show. -/
def patience (w : World) : Nat :=
  w.cloud.hiddenReads + w.faults.foldl (fun n f => n + (f.skip + f.times)) 0 + 4

def runController {α : Type} (w : World) (job : Controller.Job α) : Except CsiError α × World :=
  let poller := { w.poller with patience := w.patience }
  let (result, t, w) := job.run.run (Controller.answerQuery poller askCloud) (w.timeline, w)
  (result, { w with timeline := t })

def runNode {α : Type} (w : World) (work : Host.Work α) : α × World :=
  let (result, disks, w) := work.run (Host.answerQuery askHost) (w.nodeDisks, w)
  (result, { w with nodeDisks := disks })

/-- Works through work that looks for devices without the node service. -/
def runAside {α : Type} (w : World) (work : Host.Work α) : α × World :=
  let (result, disks, w) := work.run (Host.answerQuery askHost) (w.otherDisks, w)
  (result, { w with otherDisks := disks })

def runCloud {ε α : Type} (w : World) (calls : Cloud.Calls ε α) : Except ε α × World :=
  calls.run.run askCloud w

def runWork {α : Type} (w : World) : Work α → Except CsiError α × World
  | .done result => (result, w)
  | .signal see => (.ok (see w.timeline.signal), w)
  | .controller job => w.runController job
  | .node job => w.runNode job.run

/-- Counts a call that began at a moment and ends now, and answers it. -/
def finish {α : Type} (w : World) (rpc : Rpc) (start : Nat) (result : Except CsiError α) :
    Option (Except CsiError α) × World :=
  if w.counts then
    let (answer, metrics) :=
      w.metrics.observe rpc result ((w.timeline.now - start) * Metrics.millisecond)
    (answer, { w with metrics := metrics })
  else (heard result, w)

/-- What a call is answered with, if it is answered at all, and the world after it. -/
def call {α : Type} (w : World) (rpc : Rpc) (work : Work α) :
    Option (Except CsiError α) × World :=
  let (result, w') := w.runWork work
  w'.finish rpc w.timeline.now result

end World

end VolumePlugin.Testbed
