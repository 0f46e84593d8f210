/-! The wire form of messages: a sequence of fields, each a key and a value. A key holds the number
of the field and the form of its value; numbers and lengths are varints. -/

namespace VolumePlugin.Message.Wire

/-- A number in groups of seven bits, the lowest first; every byte but the last has its high bit
set. -/
def writeVarint (n : Nat) : List UInt8 :=
  if n < 128 then [UInt8.ofNat n]
  else UInt8.ofNat (n % 128 + 128) :: writeVarint (n / 128)
  termination_by n

/-- Reads at most `count` more bytes of a number whose bits below `scale` are known. The last byte
a 64-bit number can have holds one bit. -/
def readVarintFrom : Nat → Nat → Nat → List UInt8 → Option (Nat × List UInt8)
  | 0, _, _, _ => none
  | _ + 1, _, _, [] => none
  | count + 1, scale, value, b :: rest =>
    if b.toNat < 128 then
      if count = 0 ∧ 2 ≤ b.toNat then none else some (value + scale * b.toNat, rest)
    else readVarintFrom count (128 * scale) (value + scale * (b.toNat - 128)) rest

/-- Reads a number below 2^64, which takes at most ten bytes. -/
def readVarint (bytes : List UInt8) : Option (Nat × List UInt8) :=
  readVarintFrom 10 1 0 bytes

/-- The value of a field as the wire form shows it. -/
inductive Value where
  | varint (n : Nat)
  | fixed64
  | bytes (payload : List UInt8)
  | group
  | fixed32

/-- Reads a key: the number of a field, which is not zero, and the form of its value. -/
def readKey (bytes : List UInt8) : Option (Nat × Nat × List UInt8) := do
  let (key, rest) ← readVarint bytes
  if 0x100000000 ≤ key ∨ 6 ≤ key % 8 ∨ key / 8 = 0 then none
  else return (key / 8, key % 8, rest)

/-- The rest after the first `count` bytes, if there are so many. -/
def dropExactly (count : Nat) (bytes : List UInt8) : Option (List UInt8) :=
  if count ≤ bytes.length then some (bytes.drop count) else none

/-- Skips the fields of a group and the key that ends it. Each nested value uses up one of the
levels that are left. -/
def skipGroup : Nat → Nat → Nat → List UInt8 → Option (List UInt8)
  | 0, _, _, _ => none
  | fuel + 1, levels, number, bytes => do
    let (inner, form, rest) ← readKey bytes
    if form = 4 then
      if inner = number then return rest else none
    else if levels ≤ 1 then none
    else
      let rest ← match form with
        | 0 => (readVarint rest).map (·.2)
        | 1 => dropExactly 8 rest
        | 2 => do
          let (length, rest) ← readVarint rest
          dropExactly length rest
        | 3 => skipGroup fuel (levels - 1) inner rest
        | _ => dropExactly 4 rest
      skipGroup fuel levels number rest

/-- The fields of a message in the order of the wire. -/
def readFields : Nat → Nat → List UInt8 → Option (List (Nat × Value))
  | _, _, [] => some []
  | 0, _, _ => none
  | fuel + 1, levels, bytes => do
    let (number, form, rest) ← readKey bytes
    let (value, rest) ← match form with
      | 0 => do
        let (n, rest) ← readVarint rest
        pure (Value.varint n, rest)
      | 1 => do pure (.fixed64, ← dropExactly 8 rest)
      | 2 => do
        let (length, rest) ← readVarint rest
        let after ← dropExactly length rest
        pure (.bytes (rest.take length), after)
      | 3 => do pure (.group, ← skipGroup rest.length levels number rest)
      | 5 => do pure (.fixed32, ← dropExactly 4 rest)
      | _ => none
    return (number, value) :: (← readFields fuel levels rest)

/-- The fields of a message; every field takes at least one byte. `levels` bounds the nesting of
values that are skipped. -/
def split (levels : Nat) (bytes : List UInt8) : Option (List (Nat × Value)) :=
  readFields bytes.length levels bytes

/-- A field with a number as its value. -/
def varintField (number n : Nat) : List UInt8 :=
  writeVarint (8 * number) ++ writeVarint n

/-- A field with a sequence of bytes as its value. -/
def bytesField (number : Nat) (payload : List UInt8) : List UInt8 :=
  writeVarint (8 * number + 2) ++ writeVarint payload.length ++ payload

end VolumePlugin.Message.Wire
