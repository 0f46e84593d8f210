import VolumePlugin.Cloud.Lookup
import VolumePlugin.CommandLine.Arguments
import VolumePlugin.Http.Client
import VolumePlugin.Rpc

/-! How a process comes up from its settings, and what it reports when it cannot. -/

namespace VolumePlugin.Launch

/-- Why a process does not come up or ends early. -/
inductive Failure where
  | settings (cause : CsiError)
  | client (cause : CloudError)
  | node (cause : CloudError)
  | serving (cause : CsiError)
  deriving DecidableEq, Repr

namespace Failure

/-- What the process was about to do. -/
def task : Failure → String
  | settings _ => "invalid configuration"
  | client _ => "building API client"
  | node _ => "resolving this node's instance"
  | serving _ => "serving CSI"

def cause : Failure → String
  | settings e | serving e => e.message
  | client e | node e => e.message

/-- A text with blanks before each of its lines. -/
def indented (s : String) : String :=
  "\n".intercalate ((Text.pieces '\n' s.toList).map fun l => "    " ++ String.ofList l)

/-- What the process reports. -/
def report (f : Failure) : String :=
  s!"Error: {f.task}\n\nCaused by:\n{indented f.cause}\n"

def exitCode (_ : Failure) : Nat := 1

end Failure

/-- The name by which the process is known to the provider. -/
def userAgent (c : DriverConfig) : String :=
  s!"{c.driverName}/{c.vendorVersion}"

/-- The client of a process, if its settings are valid. -/
def client (c : DriverConfig) : Except Failure Http.Client := do
  c.validate.mapError .settings
  (Http.Client.make c.apiUrl c.apiToken (userAgent c)).mapError .client

/-- The instance that the process runs on, if it serves a node. The text is that of the file with
the identifier of the instance. -/
def node? (c : DriverConfig) (file : Option String) : Cloud.Calls CloudError (Option Instance) :=
  if c.mode.runsNode then some <$> Cloud.resolveInstance c.nodeName file else pure none

/-- What the services of a process are made with. Nobody asks for the instance of a process that
serves no node. -/
def plugin (c : DriverConfig) (node : Option Instance) : Plugin :=
  { driverName := c.driverName
    vendorVersion := c.vendorVersion
    controller := ⟨c.region, c.labelPrefix⟩
    node := node.getD ⟨0, "", "", 0⟩ }

/-- How the controller service of a process waits. -/
def poller (c : DriverConfig) : Poller :=
  { interval := c.pollInterval, timeout := c.pollTimeout }

end VolumePlugin.Launch
