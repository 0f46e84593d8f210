import VolumePlugin.Rpc.Refusal
import VolumePlugin.Socket
import VolumePlugin.Testbed.Files
import VolumePlugin.Testbed.Script

/-! Scripts that let a plugin listen at an endpoint, send it requests, and stop it. -/

namespace VolumePlugin.Testbed.Serving

open Host (FileTree)

/-- What a request is answered with whose service is not offered. -/
def notOffered : Json := Spec.error "Unimplemented" ""

/-- Whether a process offers the service of a procedure. -/
def offers (mode : Mode) (procedure : String) : Bool :=
  match Rpc.find? procedure with
  | some rpc => mode.offers rpc.service
  | none => false

/-- What arrives of the answer to a request. -/
def received : Answer → Json
  | none => Spec.noAnswer
  | some (.ok response) => Spec.ok response.json
  | some (.error e) =>
    let r := Rpc.Refusal.received ⟨e.code, e.message⟩
    Spec.error r.code.name r.message

/-- Sends a request, whose service may not be offered. -/
def answerOne {σ : Type} (mode : Mode) (send : Json → σ → Option Answer × σ) (v : Json) (s : σ) :
    Json × σ :=
  if offers mode (v.getText "name") then
    let (answer, s) := send v s
    ((answer.map received).getD Script.unreadable, s)
  else (notOffered, s)

def answerAll {σ : Type} (mode : Mode) (send : Json → σ → Option Answer × σ) :
    List Json → σ → List Json × σ
  | [], s => ([], s)
  | v :: rest, s =>
    let (reply, s) := answerOne mode send v s
    let (replies, s) := answerAll mode send rest s
    (reply :: replies, s)

def filesOf (v : Json) : FileTree :=
  let t := match v.getText? "stale_file" with
    | some path => Files.withFile Files.fresh path "stale"
    | none => Files.fresh
  match v.getText? "stale_dir" with
  | some path => Files.withDirectory t path
  | none => t

/-- What is done to the socket before the plugin is stopped. -/
def disturb (v : Json) (path : String) (t : FileTree) : FileTree :=
  let removed := (t.removeFile path).toOption.getD t
  match v.getText "before_stop" with
  | "remove_socket" => removed
  | "replace_with_dir" => (removed.makeDirectory path).toOption.getD removed
  | _ => t

/-- How often each procedure came to which end. -/
def countsOf (w : World) : Json :=
  .array (w.metrics.snapshot.map fun e =>
    .array [.text e.operation, .text e.code.name, .nat e.stats.count])

/-- What becomes of a plugin that listens at an endpoint. -/
def serve (v : Json) (mode : Mode) : Json :=
  match Socket.listen (v.getText "endpoint") (filesOf v) with
  | .error e => .object [("serve", Spec.csiError e)]
  | .ok (path, t) =>
    let (_, w) := Script.steps (v.getList "arrange") (World.ofScript v)
    let (answers, w) := answerAll mode Script.send (v.getList "rpcs") w
    let t := Socket.close path (disturb v path t)
    .object [("serve", .text "ok"), ("answers", .array answers),
      ("socket_left", .bool (t.pathExists path)), ("metrics", countsOf w)]

/-- Runs a whole script. -/
def run (v : Json) : Json :=
  match Mode.parse ((v.getText? "mode").getD "all") with
  | .error e => Spec.csiError e
  | .ok mode => Files.restore (Spec.ok (serve (Files.resolve v) mode))

/-- Reaches for a plugin at an endpoint where there is none. -/
def connect (v : Json) : Json :=
  let endpoint := (Files.resolve v).getText "endpoint"
  Files.restore (Spec.ofCsi (fun _ => .null) (Socket.dial endpoint Files.fresh))

end VolumePlugin.Testbed.Serving
