import VolumePlugin.Config
import VolumePlugin.Text.Unsigned

/-! The command line of the plugin. Every option is a long flag with a value, and can be given by a
variable of the environment as well; the flag wins. -/

namespace VolumePlugin.CommandLine

/-- The options of the plugin. -/
inductive Opt where
  | mode
  | endpoint
  | driverName
  | apiUrl
  | apiToken
  | region
  | nodeName
  | labelStart
  | instanceIdFile
  | pollInterval
  | pollTimeout
  | logJson
  deriving DecidableEq, Repr

/-- What ends the reading of a command line early. -/
inductive Stop where
  | missingRequired
  | unknownArgument
  | invalidValue
  | valueValidation
  | tooManyValues
  | conflict
  | help
  | version
  deriving DecidableEq, Repr

def Stop.exitCode : Stop → Nat
  | help | version => 0
  | _ => 2

namespace Opt

/-- The options in the order in which the environment is looked at. -/
def all : List Opt :=
  [mode, endpoint, driverName, apiUrl, apiToken, region, nodeName, labelStart, instanceIdFile,
    pollInterval, pollTimeout, logJson]

def flag : Opt → String
  | mode => "mode"
  | endpoint => "endpoint"
  | driverName => "driver-name"
  | apiUrl => "api-url"
  | apiToken => "api-token"
  | region => "region"
  | nodeName => "node-name"
  | labelStart => "volume-label-prefix"
  | instanceIdFile => "instance-id-file"
  | pollInterval => "poll-interval-secs"
  | pollTimeout => "poll-timeout-secs"
  | logJson => "log-json"

def environmentName : Opt → String
  | mode => "BLOCKCSI_MODE"
  | endpoint => "BLOCKCSI_ENDPOINT"
  | driverName => "BLOCKCSI_DRIVER_NAME"
  | apiUrl => "BLOCKCSI_API_URL"
  | apiToken => "BLOCKCSI_API_TOKEN"
  | region => "BLOCKCSI_REGION"
  | nodeName => "BLOCKCSI_NODE_NAME"
  | labelStart => "BLOCKCSI_VOLUME_LABEL_PREFIX"
  | instanceIdFile => "BLOCKCSI_INSTANCE_ID_FILE"
  | pollInterval => "BLOCKCSI_POLL_INTERVAL_SECS"
  | pollTimeout => "BLOCKCSI_POLL_TIMEOUT_SECS"
  | logJson => "BLOCKCSI_LOG_JSON"

def takesValue : Opt → Bool
  | logJson => false
  | _ => true

/-- What is wrong with a value, if anything is. -/
def fault? (o : Opt) (value : String) : Option Stop :=
  match o with
  | mode => match Mode.parse value with
    | .ok _ => none
    | .error _ => some .valueValidation
  | pollInterval | pollTimeout => match Text.readUnsigned Text.wordBound value.toList with
    | .ok _ => none
    | .error _ => some .valueValidation
  | instanceIdFile => if value = "" then some .invalidValue else none
  | logJson => if value = "true" ∨ value = "false" then none else some .invalidValue
  | _ => none

end Opt

/-- What is known after a part of the command line: the values read so far, and the option whose
value comes next or has come last, since a value is only checked when the next flag is met. -/
structure Reading where
  values : List (Opt × String) := []
  pending : Option (Opt × Option String) := none
  /-- Whether only operands follow, of which the plugin has none. -/
  operandsOnly : Bool := false
  deriving Repr

namespace Reading

def value? (r : Reading) (o : Opt) : Option String :=
  r.values.lookup o

/-- Accepts the value of an option that has none yet. -/
def accept (r : Reading) (o : Opt) (value : String) : Except Stop Reading :=
  if (r.value? o).isSome then .error .conflict
  else match o.fault? value with
    | some stop => .error stop
    | none => .ok { r with values := r.values ++ [(o, value)] }

/-- Accepts the value of the option that waits for one. -/
def settle (r : Reading) : Except Stop Reading :=
  match r.pending with
  | none => .ok r
  | some (_, none) => .error .invalidValue
  | some (o, some value) => accept { r with pending := none } o value

/-- Reads a long flag, with the value after an equals sign if there is one. -/
def long (r : Reading) (name : String) (attached : Option String) : Except Stop Reading :=
  match Opt.all.find? (·.flag == name), attached with
  | some o, some value =>
    if o.takesValue then do (← r.settle).accept o value else .error .tooManyValues
  | some o, none => do
    let r ← r.settle
    if o.takesValue then return { r with pending := some (o, none) } else r.accept o "true"
  | none, attached =>
    if name = "help" ∨ name = "version" then
      match attached with
      | some _ => .error .tooManyValues
      | none => do
        let _ ← r.settle
        .error (if name = "help" then .help else .version)
    else .error .unknownArgument

/-- Reads the first letter of a group of short flags; the plugin has two, and both end the
reading. -/
def short (r : Reading) (letter : Char) : Except Stop Reading :=
  if letter = 'h' then do
    let _ ← r.settle
    .error .help
  else if letter = 'V' then do
    let _ ← r.settle
    .error .version
  else .error .unknownArgument

/-- Reads an argument that is no flag: the value of the option that waits for one. -/
def operand (r : Reading) (argument : String) : Except Stop Reading :=
  match r.pending with
  | some (o, none) => .ok { r with pending := some (o, some argument) }
  | _ => .error .unknownArgument

def step (r : Reading) (argument : String) : Except Stop Reading :=
  if r.operandsOnly then .error .unknownArgument
  else match argument.toList with
    | ['-', '-'] => .ok { r with operandsOnly := true }
    | '-' :: '-' :: rest =>
      match Text.splitFirst '=' rest with
      | some (name, value) => r.long (String.ofList name) (some (String.ofList value))
      | none => r.long (String.ofList rest) none
    | '-' :: letter :: _ => r.short letter
    | _ => r.operand argument

/-- Takes the value of an option from the environment unless a flag gave one. -/
def consult (environment : List (String × String)) (r : Reading) (o : Opt) :
    Except Stop Reading :=
  match r.value? o, environment.lookup o.environmentName with
  | none, some value => r.accept o value
  | _, _ => .ok r

end Reading

/-- What the command line says. -/
structure Arguments where
  config : DriverConfig
  logJson : Bool
  deriving Repr

/-- The number that a checked value stands for. -/
def numberOf (value : String) : Nat :=
  match Text.readUnsigned Text.wordBound value.toList with
  | .ok n => n
  | .error _ => 0

/-- The settings that the given values make, with the defaults for the others. -/
def settings (r : Reading) (apiToken : String) : Arguments :=
  let base : DriverConfig := {}
  { config :=
      { base with
        mode := match r.value? .mode with
          | some value => (Mode.parse value).toOption.getD base.mode
          | none => base.mode
        endpoint := (r.value? .endpoint).getD base.endpoint
        driverName := (r.value? .driverName).getD base.driverName
        apiUrl := (r.value? .apiUrl).getD base.apiUrl
        apiToken := apiToken
        region := (r.value? .region).getD base.region
        nodeName := (r.value? .nodeName).getD base.nodeName
        volumeLabelPrefix := r.value? .labelStart
        instanceIdFile := r.value? .instanceIdFile
        pollInterval := ((r.value? .pollInterval).map (1000 * numberOf ·)).getD base.pollInterval
        pollTimeout := ((r.value? .pollTimeout).map (1000 * numberOf ·)).getD base.pollTimeout }
    logJson := r.value? .logJson = some "true" }

/-- Reads the arguments after the name of the program. The token is the one option that must be
given. -/
def parse (arguments : List String) (environment : List (String × String)) :
    Except Stop Arguments := do
  let r ← arguments.foldlM Reading.step {}
  let r ← r.settle
  let r ← Opt.all.foldlM (Reading.consult environment) r
  match r.value? .apiToken with
  | some token => return settings r token
  | none => .error .missingRequired

end VolumePlugin.CommandLine
