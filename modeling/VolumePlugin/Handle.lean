import VolumePlugin.Error
import VolumePlugin.Text.Pieces
import VolumePlugin.Text.Quoted
import VolumePlugin.Text.Unsigned
import VolumePlugin.Text.Utf8

/-! Volume handles: what an orchestrator knows a volume by. A handle is the number that the provider
gave to the volume, a hyphen, and the label of the volume. -/

namespace VolumePlugin

/-- What a handle says about a volume. -/
structure VolumeKey where
  /-- The number of the volume at the provider, below 2^64. -/
  volume : Nat
  label : String
  deriving DecidableEq, Repr, Inhabited

/-- Why a text is no handle. -/
inductive HandleError where
  | noSeparator (handle : String)
  | badNumber (handle : String) (cause : Text.IntegerError)
  deriving DecidableEq, Repr

def HandleError.message : HandleError → String
  | noSeparator handle => s!"volume handle {Text.quoted handle} has no separator"
  | badNumber handle cause => s!"volume handle {Text.quoted handle} has bad id: {cause.message}"

def HandleError.toCsi (e : HandleError) : CsiError :=
  .invalidArgument e.message

namespace VolumeKey

def handle (key : VolumeKey) : String :=
  s!"{key.volume}-{key.label}"

/-- Reads a handle. The first hyphen ends the number, so labels may hold more of them. -/
def parse (handle : String) : Except HandleError VolumeKey :=
  match Text.splitFirst '-' handle.toList with
  | none => .error (.noSeparator handle)
  | some (number, label) =>
    match Text.readUnsigned Text.wordBound number with
    | .error cause => .error (.badNumber handle cause)
    | .ok volume => .ok ⟨volume, String.ofList label⟩

end VolumeKey

/-- The 32-bit FNV-1a hash of a byte sequence. -/
def fnv1a (bytes : List UInt8) : UInt32 :=
  bytes.foldl (fun hash b => (hash ^^^ b.toUInt32) * 0x01000193) 0x811c9dc5

/-- The number of the volume that a handle names. A text that is no handle names the volume whose
number is its hash, which is stable and hardly ever exists. -/
def volumeNumber (handle : String) : Nat :=
  match VolumeKey.parse handle with
  | .ok key => key.volume
  | .error _ => (fnv1a (Text.Utf8.ofString handle)).toNat

/-- The number of the instance that a node id names: the number before the first hyphen, or else
the hash of the whole text. -/
def instanceNumber (nodeId : String) : Nat :=
  let number := match Text.splitFirst '-' nodeId.toList with
    | some (number, _) => number
    | none => nodeId.toList
  match Text.readUnsigned Text.wordBound number with
  | .ok n => n
  | .error _ => (fnv1a (Text.Utf8.ofString nodeId)).toNat

end VolumePlugin
