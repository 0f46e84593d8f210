import VolumePlugin.Attributes
import VolumePlugin.Host.Job
import VolumePlugin.Host.Path
import VolumePlugin.Setting
import VolumePlugin.Text.Blank
import VolumePlugin.Text.Quoted

/-! Encrypted volumes: what a request says about the encryption, and the commands that format, open,
inspect and close the mapping of an encrypted device. -/

namespace VolumePlugin

/-- The requests that deal with encrypted volumes. -/
inductive Lifecycle where
  | stage
  | publish
  | unstage
  | unpublish
  deriving DecidableEq, Repr

def Lifecycle.name : Lifecycle → String
  | stage => "NodeStageVolume"
  | publish => "NodePublishVolume"
  | unstage => "NodeUnstageVolume"
  | unpublish => "NodeUnpublishVolume"

/-- What a request says about the encryption of its volume. -/
structure LuksContext where
  enabled : Bool
  key : String
  cipher : String
  /-- The size of the key in bits. -/
  keySize : String
  mapping : String
  lifecycle : Lifecycle
  deriving DecidableEq, Repr

namespace LuksContext

/-- Reads the settings out of the volume context, and the key out of the secrets. -/
def ofRequest (volumeContext secrets : Attributes) (mapping : String) (lifecycle : Lifecycle) :
    LuksContext :=
  { enabled := (volumeContext.get? Setting.luksEncrypted).any fun v => Text.lowerAscii v = "true"
    key := secrets.getD Setting.luksKey
    cipher := volumeContext.getD Setting.luksCipher
    keySize := volumeContext.getD Setting.luksKeySize
    mapping := mapping
    lifecycle := lifecycle }

/-- What may be logged: everything but the key. -/
def describe (c : LuksContext) : String :=
  let hidden := Text.quoted "<redacted>"
  s!"LuksContext \x7b encryption_enabled: {c.enabled}, key: {hidden}, " ++
    s!"cipher: {Text.quoted c.cipher}, key_size: {Text.quoted c.keySize}, " ++
    s!"mapping_name: {Text.quoted c.mapping}, lifecycle: {c.lifecycle.name} \x7d"

/-- The names of the settings that are missing. -/
def missing (c : LuksContext) : List String :=
  ([("cipher", c.cipher), ("key", c.key), ("key size", c.keySize),
    ("mapping name", c.mapping)].filter (·.2 = "")).map (·.1)

/-- Refuses encryption with settings missing. -/
def validate (c : LuksContext) : Except CsiError Unit :=
  if !c.enabled || c.missing.isEmpty then .ok ()
  else
    let names := ", ".intercalate c.missing
    .error (.encryption s!"{c.lifecycle.name}: missing {names}")

end LuksContext

namespace Luks

open Host (Job)

def mapperDirectory : String := "/dev/mapper"

def mapperPath (name : String) : String :=
  s!"{mapperDirectory}/{name}"

def isMapperPath (path : String) : Bool :=
  (Host.Path.parent? path).any fun up => Host.Path.same up mapperDirectory

/-- Drops a text from the start of another one as often as it stands there, at most `fuel`
times. -/
def dropRepeated (start : List Char) : Nat → List Char → List Char
  | 0, text => text
  | fuel + 1, text =>
    match Text.dropStart? start text with
    | some rest => dropRepeated start fuel rest
    | none => text

def mappingName (path : String) : String :=
  String.ofList (dropRepeated (mapperDirectory ++ "/").toList path.length path.toList)

def failure (what : String) (out : Host.CommandOutput) : CsiError :=
  .encryption s!"{what} failed ({out.codeText}): {Text.trim out.stderr}"

def cryptsetup (arguments : List String) (key : Option String) : Job Host.CommandOutput :=
  let action := arguments.headD ""
  Job.demand (Host.ask (.run ⟨"cryptsetup", arguments, key⟩)) fun e =>
    .encryption s!"cryptsetup {action}: {e.text}"

/-- Runs `cryptsetup`, which must do what it is told. -/
def mustSucceed (what : String) (arguments : List String) (key : Option String) : Job Unit := do
  let out ← cryptsetup arguments key
  if !out.success then throw (failure what out)

/-- Whether a device holds anything. -/
def isFormatted (device : String) : Job Bool := do
  let out ← Job.demand (Host.ask (.run ⟨"blkid", ["-p", device], none⟩)) fun e =>
    .encryption e.text
  match out.code with
  | some 0 => return true
  | some 2 => return false
  | _ => throw (failure s!"blkid {device}" out)

/-- Opens the mapping of a device, unless there is one of its name, and yields its path. -/
def openMapping (device : String) (c : LuksContext) : Job String := do
  let path := mapperPath c.mapping
  if ← Host.ask (.pathExists path) then return path
  mustSucceed "luksOpen" ["luksOpen", "--key-file", "-", device, c.mapping] (some c.key)
  return path

def close (name : String) : Job Unit :=
  mustSucceed "luksClose" ["luksClose", name] none

def formatArguments (device : String) (c : LuksContext) : List String :=
  ["-q", "luksFormat", "--type", "luks2", "--cipher", c.cipher, "--key-size", c.keySize,
    "--key-file", "-", device]

/-- Formats a device, and makes sure that it can be opened and closed. -/
def format (device : String) (c : LuksContext) : Job Unit := do
  Job.ofExcept c.validate
  mustSucceed "luksFormat" (formatArguments device c) (some c.key)
  let _ ← openMapping device c
  close c.mapping

/-- Whether a line of the description of a mapping says that the mapping is an encrypted one. -/
def saysLuks (line : List Char) : Bool :=
  match Text.dropStart? "type:".toList (Text.trimStart line) with
  | some type => Text.occursIn "luks".toList (type.map Char.toLower)
  | none => false

/-- Whether a path is that of an open mapping of an encrypted device. -/
def isLuksMapping (path : String) : Job Bool := do
  match Host.Path.fileName? path with
  | none => return false
  | some name =>
    let out ← cryptsetup ["status", name] none
    return out.success && (Text.lines out.stdout.toList).any saysLuks

/-- Makes a mapping as large as its device. -/
def resize (name : String) (key : Option String) : Job Unit :=
  mustSucceed "resize"
    (if key.isSome then ["resize", "--key-file", "-", name] else ["resize", name]) key

end Luks

end VolumePlugin
