import VolumePlugin.Json.Reader
import VolumePlugin.Json.Writer
import VolumePlugin.Testbed.Serving

/-! The program. It takes its settings from the command line and the environment. Then it answers
the requests on its standard input, a JSON object on each line, over a provider and a host that it
keeps in memory. -/

namespace VolumePlugin.Main

open Testbed (World)

/-- The surroundings of a process. The provider knows one instance, named like the node. -/
def surroundings (c : DriverConfig) : World :=
  { plugin := Launch.plugin c none
    poller := Launch.poller c
    cloud :=
      { region := c.region
        instances := [{ World.defaultInstance with label := c.nodeName, region := c.region }] } }

/-- The surroundings of a process that has come up, or why it does not come up. -/
def start (c : DriverConfig) : Except Launch.Failure World := do
  let _ ← Launch.client c
  let (node, w) := (surroundings c).runCloud (Launch.node? c none)
  let node ← node.mapError .node
  return { w with plugin := Launch.plugin c node }

/-- Answers a line of the input. -/
def answer (mode : Mode) (line : String) (w : World) : String × World :=
  match Json.parse line with
  | some v =>
    let (reply, w) := Testbed.Serving.answerOne mode Testbed.Script.send v w
    (Json.render reply, w)
  | none => (Json.render Testbed.Script.unreadable, w)

/-- What is said about a command line that gives no settings. -/
def saying : CommandLine.Stop → String
  | .help => "usage: volume-plugin --api-token <token> [options]\n"
  | .version => s!"volume-plugin {Setting.vendorVersion}\n"
  | _ => "error: the command line gives no settings; try --help\n"

/-- The part of the environment that settings can come from. -/
def environment : IO (List (String × String)) :=
  CommandLine.Opt.all.filterMapM fun o => do
    let value ← IO.getEnv o.environmentName
    return value.map fun v => (o.environmentName, v)

/-- Answers lines until the input ends. -/
partial def serve (mode : Mode) (w : World) (input output : IO.FS.Stream) : IO Unit := do
  let line ← input.getLine
  if line.isEmpty then return
  let (reply, w) := answer mode line w
  output.putStrLn reply
  output.flush
  serve mode w input output

/-- Starts the program with the settings that it was given. -/
def run (c : DriverConfig) : IO UInt32 := do
  match start c with
  | .error f =>
    (← IO.getStderr).putStr f.report
    return f.exitCode.toUInt32
  | .ok w =>
    serve c.mode w (← IO.getStdin) (← IO.getStdout)
    return 0

end VolumePlugin.Main

def main (arguments : List String) : IO UInt32 := do
  match VolumePlugin.CommandLine.parse arguments (← VolumePlugin.Main.environment) with
  | .error stop =>
    let out ← if stop.exitCode = 0 then IO.getStdout else IO.getStderr
    out.putStr (VolumePlugin.Main.saying stop)
    return stop.exitCode.toUInt32
  | .ok a => VolumePlugin.Main.run a.config
