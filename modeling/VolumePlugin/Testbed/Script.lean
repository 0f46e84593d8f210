import VolumePlugin.Launch
import VolumePlugin.Testbed.Overlap

/-! Scripts of steps that arrange the surroundings of a plugin, ask things of it, and look at what
became of them. -/

namespace VolumePlugin.Testbed

/-- What a step answers, and the world after it. -/
abbrev Reply := Json × World

namespace World

def configOf (v : Json) : DriverConfig :=
  { driverName := (v.getText? "driver_name").getD Setting.defaultDriverName
    vendorVersion := (v.getText? "vendor_version").getD Setting.vendorVersion
    region := (v.getText? "region").getD "us-east"
    volumeLabelPrefix := v.getText? "volume_label_prefix"
    pollInterval := (v.getNat? "poll_interval_ms").getD 1000
    pollTimeout := (v.getNat? "poll_timeout_ms").getD 60000 }

def defaultInstance : Instance :=
  { id := 7, label := "worker-1", region := "us-east", memory := 16 * Capacity.gibBytes }

/-- The world that a script begins with. -/
def ofScript (v : Json) : World :=
  let settings := (v.get? "config").getD .null
  let c := configOf settings
  { plugin := Launch.plugin c (((v.get? "instance").map Spec.readInstance).getD defaultInstance)
    poller := { Launch.poller c with detached := settings.getBool "detached" }
    counts := !settings.getBool "noop_metrics"
    cloud := { region := (v.getText? "cloud_region").getD "us-east" } }

end World

namespace Script

/-- A reply to a step that succeeds without a result. -/
def silent (w : World) : Reply := (.null, w)

/-- The reply to a step that goes straight to the provider. -/
def direct {α : Type} (w : World) (shown : α → Json) (result : Except CloudError α × Cloud.Memory) :
    Reply :=
  match result with
  | (.ok a, cloud) => (shown a, { w with cloud := cloud })
  | (.error e, cloud) => (Spec.cloudError e, { w with cloud := cloud })

def addVolume (v : Json) (w : World) : Reply :=
  let label := v.getText "label"
  let (volume, cloud) := w.cloud.addVolume fun id =>
    { id := id, label := label, size := v.getNat "size"
      region := (v.getText? "region").getD w.cloud.region, status := .active
      attachment := v.getNat? "attached", devicePath := Cloud.Memory.devicePath label, tags := [] }
  (.nat volume.id, { w with cloud := cloud })

/-- Changes the region of a volume that is there. -/
def setRegion (v : Json) (w : World) : World :=
  match w.cloud.volume? (v.getNat "id") with
  | some volume =>
    { w with cloud := w.cloud.putVolume { volume with region := v.getText "region" } }
  | none => w

def readStats (v : Json) : Host.FsStats :=
  { totalBytes := v.getNat "total_bytes", availableBytes := v.getNat "available_bytes"
    usedBytes := v.getNat "used_bytes", totalInodes := v.getNat "total_inodes"
    freeInodes := v.getNat "free_inodes", usedInodes := v.getNat "used_inodes" }

/-- Steps that arrange the provider. -/
def arrangeCloud? (step : String) (v : Json) (w : World) : Option Reply :=
  let id := v.getNat "id"
  let nothing : Unit → Json := fun _ => .null
  let number : RemoteVolume → Json := fun volume => .nat volume.id
  match step with
  | "add_instance" =>
    some (silent { w with cloud := w.cloud.putInstance {
      id := id, label := v.getText "label", region := w.cloud.region
      memory := v.getNat "memory_gib" * Capacity.gibBytes } })
  | "add_volume" => some (addVolume v w)
  | "create_remote" =>
    some (direct w number
      (w.cloud.createVolume ⟨v.getText "label", v.getText "region", v.getNat "size", []⟩))
  | "attach_remote" =>
    some (direct w (fun _ => .null) (w.cloud.attachVolume id (v.getNat "instance")))
  | "detach_remote" => some (direct w nothing (w.cloud.detachVolume id))
  | "delete_remote" => some (direct w nothing (w.cloud.deleteVolume id))
  | "resize_remote" => some (direct w nothing (w.cloud.resizeVolume id (v.getNat "size")))
  | "clone_remote" => some (direct w number (w.cloud.cloneVolume id (v.getText "label")))
  | "set_region" => some (silent (setRegion v w))
  | "set_page_size" =>
    some (silent { w with cloud := { w.cloud with pageSize := v.getNat "size" } })
  | "set_initial_status" =>
    some (silent { w with cloud :=
      { w.cloud with initialStatus := .ofName (v.getText "status") } })
  | "fail_next_attach" =>
    let e := Spec.readCloudError ((v.get? "error").getD .null)
    some (silent { w with cloud := { w.cloud with attachError := some e } })
  | "delay_attach" =>
    some (silent { w with cloud := { w.cloud with hiddenReads := v.getNat "polls" } })
  | "ignore_label_filter" =>
    some (silent { w with cloud := { w.cloud with ignoresLabels := v.getBool "value" } })
  | _ => none

/-- Steps that arrange the host. -/
def arrangeHost? (step : String) (v : Json) (h : Host.Memory) : Option Host.Memory :=
  let path := v.getText "path"
  match step with
  | "add_file" => some (h.addFile path)
  | "add_dir" => some (h.addDirectory path)
  | "add_symlink" => some (h.addLink (v.getText "link") (v.getText "target"))
  | "remove_path" => some (h.removePath path)
  | "set_stats" =>
    some { h with statistics := Host.Memory.putPath path (readStats v) h.statistics }
  | "set_fs_type" => some (h.setFsType (v.getText "device") (v.getText "fs_type"))
  | "respond" =>
    some { h with responses := h.responses ++ [(v.getText "prefix", Spec.readOutput v)] }
  | "clear_responses" => some { h with responses := [] }
  | "add_mount" =>
    some { h with mounts := h.mounts ++
      [{ source := v.getText "source", target := v.getText "target"
         fsType := v.getText "fs_type" }] }
  | _ => none

def arrangeWorld? (step : String) (v : Json) (w : World) : Option World :=
  match step with
  | "fault" => some { w with faults := w.faults ++ [Fault.read v] }
  | "clear_faults" => some { w with faults := [] }
  | "signal" =>
    some { w with timeline :=
      { w.timeline with signal := w.timeline.signal.apply (Spec.readSignalEvent v) } }
  | _ => none

def arrange? (step : String) (v : Json) (w : World) : Option Reply :=
  (arrangeCloud? step v w).orElse fun _ =>
    ((arrangeHost? step v w.host).map fun h => silent { w with host := h }).orElse fun _ =>
      (arrangeWorld? step v w).map silent

/-- The calls since the journal had a given length, in order. -/
def callsSince (length : Nat) (w : World) : List Json :=
  (w.journal.take (w.journal.length - length)).reverse.filterMap Event.toJson?

/-- A step that asks something of the plugin. It says how long that took and which calls were made
for it. What has not happened to the signal when it is over does not happen. -/
def acting (v : Json) (act : World → Reply) (w : World) : Reply :=
  let start := w.timeline.now
  let (answer, w') := act { w with timeline := w.timeline.scheduleAll (Spec.readSignals v) }
  (answer.withMembers [("elapsed_ms", .nat (w'.timeline.now - start)),
      ("calls", .array (callsSince w.journal.length w'))],
    { w' with timeline := w'.timeline.cancelPending })

def rpcAnswer : Answer → Json
  | none => Spec.noAnswer
  | some (.ok response) => Spec.ok response.json
  | some (.error e) => Spec.status e

def readHex? : List Char → Option (List UInt8)
  | [] => some []
  | a :: b :: rest => do return (← Text.hexByte? a b) :: (← readHex? rest)
  | _ => none

/-- The procedure that a request is for and the work on it, if the request can be read. -/
def readWork (v : Json) (p : Plugin) : Option (Rpc × Work Message.Packed) := do
  let rpc ← Rpc.find? (v.getText "name")
  match v.getText? "hex" with
  | some digits => return (rpc, ← rpc.ofBytes p (← readHex? digits.toList))
  | none => return (rpc, ← rpc.ofJson p ((v.get? "req").getD (.object [])))

/-- The work on the request of a step, if it can be read. -/
def readRequest (v : Json) (w : World) : Option (Rpc × Work Message.Packed) :=
  readWork v w.plugin

/-- What stands for a request that cannot be read. -/
def unreadable : Json := Spec.named "DecodeError"

/-- Sends a request, if it can be read. -/
def send (v : Json) (w : World) : Option Answer × World :=
  match readRequest v w with
  | none => (none, w)
  | some (rpc, work) =>
    let (answer, w) := w.call rpc work
    (some answer, w)

def rpc (v : Json) (w : World) : Reply :=
  let (answer, w) := send v w
  ((answer.map rpcAnswer).getD unreadable, w)

/-- The answer of a request that was sent along with another one. -/
def threadAnswer : Thread → Json
  | .finished answer => rpcAnswer answer
  | _ => Spec.noAnswer

def overlap (v : Json) (w : World) : Reply :=
  match (v.get? "first").bind (readRequest · w), (v.get? "second").bind (readRequest · w) with
  | some first, some second =>
    let (report, w) := w.overlap first second
    (Spec.ok (.object [("first_parked", .bool report.firstParked),
      ("second_finished_early", .bool report.secondFinishedEarly),
      ("first", threadAnswer report.first), ("second", threadAnswer report.second)]), w)
  | _, _ => (unreadable, w)

def idFile (v : Json) : Option String :=
  match v.getText? "file_text", v.getText? "file_hex" with
  | some text, _ => some text
  | none, some digits => (readHex? digits.toList).bind Text.Utf8.decode?
  | none, none => none

def readLifecycle (name : String) : Lifecycle :=
  match name with
  | "NodePublishVolume" => .publish
  | "NodeUnstageVolume" => .unstage
  | "NodeUnpublishVolume" => .unpublish
  | _ => .stage

def readLuks (v : Json) : LuksContext :=
  .ofRequest (Attributes.ofMember v "volume_context") (Attributes.ofMember v "secrets")
    (v.getText "mapping_name") (readLifecycle (v.getText "lifecycle"))

/-- Works with the mapping of a device. -/
def luks (v : Json) (w : World) : Reply :=
  let device := v.getText "device"
  let name := v.getText "name"
  let answer {α : Type} (f : α → Json) (job : Host.Job α) : Reply :=
    let (result, w) := w.runAside job.run
    (Spec.ofCsi f result, w)
  match v.getText "call" with
  | "is_formatted" => answer .bool (Luks.isFormatted device)
  | "format" => answer (fun _ => .null) (Luks.format device (readLuks v))
  | "open" => answer .text (Luks.openMapping device (readLuks v))
  | "close" => answer (fun _ => .null) (Luks.close name)
  | "is_luks_mapping" => answer .bool (Luks.isLuksMapping (v.getText "path"))
  | _ => answer (fun _ => .null) (Luks.resize name (v.getText? "key"))

def wait (v : Json) (goal : Controller.Goal) (w : World) : Reply :=
  let (result, w) := w.runController (Controller.Job.wait (v.getNat "id") goal)
  (Spec.ofCsi RemoteVolume.toJson result, w)

/-- Steps that ask something of the plugin. -/
def act? (step : String) (v : Json) : Option (World → Reply) :=
  match step with
  | "rpc" => some (rpc v)
  | "overlap" => some (overlap v)
  | "find_volume" => some fun w =>
    let (result, w) := w.runCloud (Cloud.findVolume (v.getText "label"))
    (Spec.ofCloud (Json.ofOption RemoteVolume.toJson) result, w)
  | "wait_status" => some (wait v (.status (.ofName (v.getText "status"))))
  | "wait_instance" => some (wait v (.attachment (v.getNat? "instance")))
  | "resolve_instance" => some fun w =>
    let (result, w) := w.runCloud (Cloud.resolveInstance (v.getText "node_name") (idFile v))
    (Spec.ofCloud Spec.ofInstance result, w)
  | "verify_device" => some fun w =>
    let (device, w) := w.runAside (Device.verify (v.getTexts "candidates"))
    (Spec.ok (Json.ofOption .text device), w)
  | "luks" => some (luks v)
  | _ => none

/-- What has become of the provider, the files and the mounts. -/
def state (w : World) : Json :=
  .object [("volumes", .array (w.cloud.volumes.map RemoteVolume.toJson)),
    ("files", .texts w.host.files.paths), ("mounts", .array (w.host.mounts.map Spec.ofMount))]

/-- What the first command read whose line holds a text. -/
def stdinOf (w : World) (needle : String) : Option String :=
  (w.host.commands.find? fun c => Text.occursIn needle.toList c.line.toList).bind (·.stdin)

/-- What has become of particular paths, targets and commands. -/
def inspect (v : Json) (w : World) : Json :=
  let h := w.host
  .object [("volume_count", .nat w.cloud.volumes.length),
    ("paths", .array ((v.getTexts "paths").map fun p =>
      .array [.bool (h.directories.contains p), .bool (h.files.contains p)])),
    ("mounts_at", .array ((v.getTexts "targets").map fun t =>
      Json.ofOption Spec.ofMount (h.mounts.find? (·.target = t)))),
    ("stdin", .array ((v.getTexts "commands").map fun n => Json.ofOption .text (stdinOf w n))),
    ("formatted", .array (h.formatted.map fun f => .texts [f.1, f.2])),
    ("mount_calls", .nat h.mountCalls)]

/-- Steps that look at what became of something. -/
def look? (step : String) (v : Json) (w : World) : Option Json :=
  match step with
  | "state" => some (state w)
  | "inspect" => some (inspect v w)
  | "metrics" => some (.array (w.metrics.snapshot.map Spec.ofEntry))
  | _ => none

def step (v : Json) (w : World) : Reply :=
  let name := v.getText "do"
  match act? name v with
  | some act => acting v act w
  | none =>
    match look? name v w with
    | some seen => (seen, w)
    | none => (arrange? name v w).getD (silent w)

def steps : List Json → World → List Json × World
  | [], w => ([], w)
  | v :: rest, w =>
    let (answer, w) := step v w
    let (answers, w) := steps rest w
    (answer :: answers, w)

/-- Runs a whole script. -/
def run (script : Json) : Json :=
  Spec.all (steps (script.getList "steps") (World.ofScript script)).1

end Script

end VolumePlugin.Testbed
