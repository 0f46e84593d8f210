import VolumePlugin.Launch
import VolumePlugin.Testbed.Machine
import VolumePlugin.Testbed.Serving
import VolumePlugin.Testbed.Web

/-! Scripts that start a process with a command line and an environment. The process works with a
provider whose responses are prepared and with a bare host. -/

namespace VolumePlugin.Testbed

open Host (FileTree)

/-- A process that has come up. -/
structure Daemon where
  plugin : Plugin
  poller : Poller
  client : Http.Client
  server : Http.Server
  files : FileTree
  timeline : Timeline := {}
  /-- The disks that the node service has met. -/
  disks : List String := []

namespace Daemon

def runWork {α : Type} (p : Daemon) : Work α → Except CsiError α × Daemon
  | .done result => (result, p)
  | .signal see => (.ok (see p.timeline.signal), p)
  | .controller job =>
    let (result, timeline, server) :=
      job.run.run (Controller.answerQuery p.poller (Web.answer p.client)) (p.timeline, p.server)
    (result, { p with timeline := timeline, server := server })
  | .node job =>
    let (result, disks, files) :=
      job.run.run (Host.answerQuery Host.Machine.answer) (p.disks, p.files)
    (result, { p with disks := disks, files := files })

def send (v : Json) (p : Daemon) : Option Answer × Daemon :=
  match Script.readWork v p.plugin with
  | none => (none, p)
  | some (_, work) =>
    let (result, p) := p.runWork work
    (some (heard result), p)

/-- What has become of a process. -/
structure Outcome where
  code : Nat
  /-- What it reported, unless that is of no interest. -/
  report : Option String
  answers : Option (List Json)
  requests : List Http.Request
  files : FileTree

def failed (f : Launch.Failure) (server : Http.Server) (t : FileTree) : Outcome :=
  { code := f.exitCode, report := some f.report, answers := none
    requests := server.requests.reverse, files := t }

/-- Serves requests until the process is told to end. -/
def serve (c : DriverConfig) (p : Daemon) (rpcs : Option (List Json)) : Outcome :=
  match Socket.listen c.endpoint p.files with
  | .error e => failed (.serving e) p.server p.files
  | .ok (path, t) =>
    let (answers, p) := Serving.answerAll c.mode send (rpcs.getD []) { p with files := t }
    { code := 0, report := some "", answers := rpcs.map fun _ => answers
      requests := p.server.requests.reverse, files := Socket.close path p.files }

/-- Starts a process with settings. -/
def start (c : DriverConfig) (proxies : Http.Proxies) (server : Http.Server)
    (rpcs : Option (List Json)) (t : FileTree) : Outcome :=
  match Launch.client c with
  | .error f => failed f server t
  | .ok client =>
    let client := { client with proxies := proxies }
    let file := c.instanceIdFile.bind fun path => (t.read path).toOption
    match (Launch.node? c file).run.run (Web.answer client) server with
    | (.error e, server) => failed (.node e) server t
    | (.ok node, server) =>
      serve c
        { plugin := Launch.plugin c node, poller := Launch.poller c, client := client
          server := server, files := t } rpcs

/-- Starts a process with a command line and an environment. -/
def launch (arguments : List String) (environment : List (String × String)) (server : Http.Server)
    (rpcs : Option (List Json)) (t : FileTree) : Outcome :=
  match CommandLine.parse arguments environment with
  | .error stop =>
    { code := stop.exitCode, report := if stop.exitCode = 2 then none else some ""
      answers := none, requests := [], files := t }
  | .ok a => start a.config (.ofEnvironment environment) server rpcs t

def filesOf (v : Json) : FileTree :=
  (Attributes.ofMember v "files").entries.foldl (fun t e => Files.withFile t e.1 e.2) Files.fresh

def outcomeOf (v : Json) : Outcome :=
  launch (v.getTexts "args") (Attributes.ofMember v "env").entries
    { responses := (v.getList "responses").map Web.readResponse }
    ((v.get? "rpcs").bind Json.elements?) (filesOf v)

def ofOutcome (socket : String) (o : Outcome) : Json :=
  .object [("code", .nat o.code), ("stderr", Json.ofOption .text o.report),
    ("answers", Json.ofOption .array o.answers),
    ("requests", .array (o.requests.map Web.ofRequest)),
    ("socket_left", .bool (o.files.pathExists socket))]

/-- Runs a whole script. -/
def run (v : Json) : Json :=
  let v := Web.resolve (Files.resolve v)
  let endpoint := (v.getText? "endpoint").getD s!"unix://{Files.base}/csi.sock"
  let socket := (DriverConfig.socketPath endpoint).toOption.getD ""
  Web.restore Web.mark (Files.restore (Spec.ok (ofOutcome socket (outcomeOf v))))

end Daemon

end VolumePlugin.Testbed
