import VolumePlugin.Error
import VolumePlugin.Message.Volume

/-! Sizes of volumes. The provider counts in GiB, requests and answers count in bytes that fit in a
signed 64-bit word. -/

namespace VolumePlugin.Capacity

def gibBytes : Nat := 0x40000000

/-- The greatest number of bytes that an answer can hold. -/
def maxBytes : Nat := 0x7fffffffffffffff

/-- The smallest volume that the provider makes, in GiB. -/
def minGib : Nat := 10

/-- The fewest GiB that hold the bytes; less than nothing takes none. -/
def bytesToGib (bytes : Int) : Nat :=
  (bytes.toNat + (gibBytes - 1)) / gibBytes

/-- The bytes of a size in GiB, or the greatest number of bytes where they are more. A size that
itself is above that number counts as the most GiB whose bytes are not. -/
def gibToBytes (gib : Nat) : Nat :=
  if maxBytes < gib then maxBytes / gibBytes * gibBytes else min (gib * gibBytes) maxBytes

/-- The bytes of a size as an answer holds them. -/
def reported (gib : Nat) : Int64 :=
  Int64.ofNat (gibToBytes gib)

/-- Why a capacity range admits no size. -/
inductive RangeError where
  | negative
  | unbounded
  | crossed (required limit : Int)
  | tooTight (gib : Nat) (limit : Int)
  deriving DecidableEq, Repr

def RangeError.message : RangeError → String
  | negative => "capacity range must not be negative"
  | unbounded => "capacity range must set required_bytes or limit_bytes"
  | crossed required limit => s!"limit_bytes {limit} is below required_bytes {required}"
  | tooTight gib limit => s!"a {gib} GiB volume does not fit under limit_bytes {limit}"

def RangeError.toCsi (e : RangeError) : CsiError :=
  .invalidArgument e.message

/-- The smallest size in GiB within two bounds in bytes, of which zero stands for none. -/
def resolveBounds (required limit : Int) : Except RangeError Nat :=
  if required < 0 ∨ limit < 0 then .error .negative
  else if required = 0 ∧ limit = 0 then .error .unbounded
  else if 0 < limit ∧ limit < required then .error (.crossed required limit)
  else
    let size := max (bytesToGib required) minGib
    if 0 < limit ∧ limit < gibToBytes size then .error (.tooTight size limit) else .ok size

/-- The size in GiB for a capacity range; without a range it is the smallest there is. -/
def resolve : Option CapacityRange → Except RangeError Nat
  | none => .ok minGib
  | some range => resolveBounds range.requiredBytes.toInt range.limitBytes.toInt

end VolumePlugin.Capacity
