import VolumePlugin.Label
import VolumePlugin.Setting
import VolumePlugin.Text.Pieces

/-! The configuration of a plugin process. Times are in milliseconds. -/

namespace VolumePlugin

/-- Which services a process offers beside the identity service. -/
inductive Mode where
  | controller
  | node
  | all
  deriving DecidableEq, Repr, Inhabited

namespace Mode

def runsController : Mode → Bool
  | controller | all => true
  | node => false

def runsNode : Mode → Bool
  | node | all => true
  | controller => false

def name : Mode → String
  | controller => "controller"
  | node => "node"
  | all => "all"

/-- Reads the name of a mode, in which the case of ASCII letters does not count. -/
def parse (text : String) : Except CsiError Mode :=
  match Text.lowerAscii text with
  | "controller" => .ok controller
  | "node" => .ok node
  | "all" => .ok all
  | other =>
    .error (.invalidArgument
      s!"unknown mode {Text.quoted other}, expected controller, node or all")

end Mode

/-- The settings of a process. -/
structure DriverConfig where
  driverName : String := Setting.defaultDriverName
  vendorVersion : String := Setting.vendorVersion
  /-- The socket to serve on, with the scheme of Unix sockets. -/
  endpoint : String := "unix:///var/lib/kubelet/plugins/blockcsi.rk8s.io/csi.sock"
  apiUrl : String := "https://api.linode.com/v4"
  apiToken : String := ""
  /-- The region of volumes for which no topology is asked. -/
  region : String := ""
  /-- The name of the node, which the label of its instance equals. -/
  nodeName : String := ""
  volumeLabelPrefix : Option String := none
  /-- A file that holds the number of this node's instance. -/
  instanceIdFile : Option String := none
  mode : Mode := .all
  pollInterval : Nat := 5000
  pollTimeout : Nat := 300000
  deriving DecidableEq, Repr, Inhabited

/-- Why a process cannot run with some settings. -/
inductive ConfigError where
  | noDriverName
  | badScheme (endpoint : String)
  | noApiToken
  | noNodeName
  | labelPrefix (cause : Label.PrefixError)
  | pollTimes
  deriving DecidableEq, Repr

def ConfigError.message : ConfigError → String
  | noDriverName => "driver name must not be empty"
  | badScheme endpoint => s!"endpoint {Text.quoted endpoint} must use the unix:// scheme"
  | noApiToken => "api token must not be empty"
  | noNodeName => "node mode needs a node name or an instance id file"
  | labelPrefix cause => cause.message
  | pollTimes => "poll timeout must be at least one non-zero poll interval"

def ConfigError.toCsi (e : ConfigError) : CsiError :=
  .invalidArgument e.message

namespace DriverConfig

def unixScheme : String := "unix://"

/-- The first reason for which a process cannot run with these settings. -/
def fault? (c : DriverConfig) : Option ConfigError :=
  if c.driverName = "" then some .noDriverName
  else if (Text.dropStart? unixScheme.toList c.endpoint.toList).isNone then
    some (.badScheme c.endpoint)
  else if c.apiToken = "" then some .noApiToken
  else if c.mode.runsNode ∧ c.nodeName = "" ∧ c.instanceIdFile = none then some .noNodeName
  else match c.volumeLabelPrefix.map Label.checkPrefix with
    | some (.error cause) => some (.labelPrefix cause)
    | _ =>
      if c.pollInterval = 0 ∨ c.pollTimeout < c.pollInterval then some .pollTimes else none

def validate (c : DriverConfig) : Except CsiError Unit :=
  match c.fault? with
  | some e => .error e.toCsi
  | none => .ok ()

/-- What labels start with; an empty text counts as nothing. -/
def labelPrefix (c : DriverConfig) : Option String :=
  c.volumeLabelPrefix.filter (· ≠ "")

/-- The path of a socket. -/
def socketPath (endpoint : String) : Except CsiError String :=
  match Text.dropStart? unixScheme.toList endpoint.toList with
  | some (c :: cs) => .ok (String.ofList (c :: cs))
  | _ => .error (.invalidArgument s!"endpoint {Text.quoted endpoint} is not a unix:// socket")

end DriverConfig

end VolumePlugin
