import VolumePlugin.Capacity
import VolumePlugin.Cloud.Record
import VolumePlugin.Host.Call
import VolumePlugin.Metrics
import VolumePlugin.Timeline

/-! How errors, results and samples are written down in scripts and their answers. -/

namespace VolumePlugin

namespace Json

/-- The value of a member of an object. Null stands for a missing member. -/
def get? (v : Json) (name : String) : Option Json :=
  match v.member? name with
  | some .null => none
  | other => other

/-- The text of a member, or the empty text. -/
def getText (v : Json) (name : String) : String :=
  ((v.get? name).bind text?).getD ""

def getText? (v : Json) (name : String) : Option String :=
  (v.get? name).bind text?

def getNat? (v : Json) (name : String) : Option Nat :=
  (v.get? name).bind fun
    | .integer n => some n.toNat
    | _ => none

/-- The natural number of a member, or zero. -/
def getNat (v : Json) (name : String) : Nat :=
  (v.getNat? name).getD 0

/-- The truth value of a member, or false. -/
def getBool (v : Json) (name : String) : Bool :=
  ((v.get? name).bind bool?).getD false

def getList (v : Json) (name : String) : List Json :=
  ((v.get? name).bind elements?).getD []

def getTexts (v : Json) (name : String) : List String :=
  ((v.get? name).bind texts?).getD []

/-- An object with more members. -/
def withMembers (more : List (String × Json)) : Json → Json
  | .object members => .object (members ++ more)
  | v => v

end Json

/-- Named texts of a member of an object. -/
def Attributes.ofMember (v : Json) (name : String) : Attributes :=
  match v.get? name with
  | some (.object members) =>
    .ofList (members.filterMap fun m => m.2.text?.map fun s => (m.1, s))
  | _ => .empty

namespace Spec

/-- An answer that stands for a success. -/
def ok (v : Json) : Json :=
  .object [("ok", v)]

/-- An answer that names an error without a text. -/
def named (name : String) : Json :=
  .object [("error", .text name)]

/-- An answer that names an error and gives its text. -/
def error (name message : String) : Json :=
  .object [("error", .text name), ("message", .text message)]

/-- What stands for a call without an answer. -/
def noAnswer : Json := named "Panic"

/-- The answers to several things asked in order. None of them counts if one thing went without an
answer. -/
def all (answers : List Json) : Json :=
  if answers.any fun a => (a.member? "error").bind Json.text? = some "Panic" then noAnswer
  else ok (.array answers)

def cloudErrorName : CloudError → String
  | .notFound _ => "NotFound"
  | .alreadyAttached _ => "AlreadyAttached"
  | .api .. => "Api"
  | .transport _ => "Transport"
  | .decode _ => "Decode"
  | .pageOverflow => "Panic"

def cloudError (e : CloudError) : Json :=
  if e = .pageOverflow then noAnswer else error (cloudErrorName e) e.message

def readCloudError (v : Json) : CloudError :=
  let text := v.getText "text"
  match v.getText "variant" with
  | "NotFound" => .notFound text
  | "Transport" => .transport text
  | "AlreadyAttached" => .alreadyAttached (v.getNat "id")
  | "Api" => .api (v.getNat "status") text
  | _ => .decode text

def errorName : CsiError → String
  | .invalidArgument _ => "InvalidArgument"
  | .notFound _ => "NotFound"
  | .volumeNotFound _ => "VolumeNotFound"
  | .alreadyExists _ => "AlreadyExists"
  | .volumeAlreadyExists _ => "VolumeAlreadyExists"
  | .failedPrecondition _ => "FailedPrecondition"
  | .unavailable _ => "Unavailable"
  | .aborted _ => "Aborted"
  | .mountFailed .. => "MountFailed"
  | .unmountFailed .. => "UnmountFailed"
  | .encryption _ => "Encryption"
  | .timeout .. => "Timeout"
  | .cloud _ => "Cloud"
  | .unimplemented _ => "Unimplemented"
  | .internal _ => "Internal"
  | .transport _ => "TransportError"

def csiError (e : CsiError) : Json :=
  if e = .cloud .pageOverflow then noAnswer else error (errorName e) e.message

def readError (v : Json) : CsiError :=
  let text := v.getText "text"
  match v.getText "variant" with
  | "InvalidArgument" => .invalidArgument text
  | "NotFound" => .notFound text
  | "VolumeNotFound" => .volumeNotFound text
  | "AlreadyExists" => .alreadyExists text
  | "VolumeAlreadyExists" => .volumeAlreadyExists text
  | "FailedPrecondition" => .failedPrecondition text
  | "Unavailable" => .unavailable text
  | "Aborted" => .aborted text
  | "MountFailed" => .mountFailed (v.getText "path") (v.getText "reason")
  | "UnmountFailed" => .unmountFailed (v.getText "path") (v.getText "reason")
  | "Encryption" => .encryption text
  | "Timeout" => .timeout (v.getText "action") (v.getNat "volume_id")
  | "Cloud" => .cloud (readCloudError ((v.get? "cloud").getD .null))
  | "Unimplemented" => .unimplemented text
  | "Internal" => .internal text
  | _ => .transport text

def status (e : CsiError) : Json :=
  error e.code.name e.message

def ofCloud {α : Type} (f : α → Json) : Except CloudError α → Json
  | .ok a => ok (f a)
  | .error e => cloudError e

def ofCsi {α : Type} (f : α → Json) : Except CsiError α → Json
  | .ok a => ok (f a)
  | .error e => csiError e

def check {α : Type} : Except CsiError α → Json
  | .ok _ => .text "ok"
  | .error e => csiError e

/-- Reads what happens to the signal; null is the end of it. -/
def readSignalEvent (v : Json) : SignalEvent :=
  match v.get? "value" with
  | some (.bool b) => .send b
  | _ => .close

/-- Reads what will happen to the signal, and when. -/
def readSignals (v : Json) : List (Nat × SignalEvent) :=
  (v.getList "signals").map fun s => (s.getNat "at_ms", readSignalEvent s)

def ofInstance (i : Instance) : Json :=
  .object [("id", .nat i.id), ("label", .text i.label), ("region", .text i.region),
    ("memory_bytes", .nat i.memory)]

def readInstance (v : Json) : Instance :=
  { id := v.getNat "id", label := v.getText "label", region := v.getText "region"
    memory := v.getNat "memory_bytes" }

def ofListOptions (o : ListOptions) : Json :=
  .object [("page", .nat o.page), ("label", Json.ofOption .text o.label),
    ("page_size", Json.ofOption .nat o.pageSize)]

def ofStats (s : OpStats) : List (String × Json) :=
  [("count", .nat s.count), ("total_ns", .nat s.total), ("max_ns", .nat s.max),
    ("avg_ns", .nat s.avg)]

def ofEntry (e : OpEntry) : Json :=
  .object ([("operation", .text e.operation), ("code", .text e.code.name)] ++ ofStats e.stats)

def ofMount (m : Host.Mount) : Json :=
  .array [.text m.source, .text m.target, .text m.fsType, .texts m.options]

def readOutput (v : Json) : Host.CommandOutput :=
  { code := (v.get? "code").bind Json.integer?
    stdout := v.getText "stdout"
    stderr := v.getText "stderr" }

end Spec

end VolumePlugin
