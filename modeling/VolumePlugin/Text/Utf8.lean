/-! UTF-8 on lists of bytes: encoding, strict decoding, and decoding that replaces each longest
start of a sequence that cannot go on by the replacement character. -/

namespace VolumePlugin.Text.Utf8

def encode (s : List Char) : List UInt8 :=
  s.flatMap String.utf8EncodeChar

def ofString (s : String) : List UInt8 :=
  encode s.toList

/-- The least and greatest second byte that may follow a first byte of a longer sequence, and the
number of bytes of that sequence after the first. -/
def continuation? (a : Nat) : Option (Nat × Nat × Nat) :=
  if 0xC2 ≤ a ∧ a ≤ 0xDF then some (0x80, 0xBF, 1)
  else if a = 0xE0 then some (0xA0, 0xBF, 2)
  else if a = 0xED then some (0x80, 0x9F, 2)
  else if 0xE1 ≤ a ∧ a ≤ 0xEF then some (0x80, 0xBF, 2)
  else if a = 0xF0 then some (0x90, 0xBF, 3)
  else if 0xF1 ≤ a ∧ a ≤ 0xF3 then some (0x80, 0xBF, 3)
  else if a = 0xF4 then some (0x80, 0x8F, 3)
  else none

/-- Reads up to `count` bytes of the form 10xxxxxx onto `value`; the first has its own range.
The answer holds the value, if all bytes were there, and the number of bytes read. -/
def readTail (low high : Nat) : Nat → Nat → List UInt8 → Option Nat × Nat
  | 0, value, _ => (some value, 0)
  | _ + 1, _, [] => (none, 0)
  | count + 1, value, b :: bs =>
    if low ≤ b.toNat ∧ b.toNat ≤ high then
      let (r, n) := readTail 0x80 0xBF count (64 * value + (b.toNat - 0x80)) bs
      (r, n + 1)
    else (none, 0)

/-- The payload bits of the first byte of a sequence with `count` more bytes. -/
def leadBits (a count : Nat) : Nat :=
  match count with
  | 1 => a - 0xC0
  | 2 => a - 0xE0
  | _ => a - 0xF0

/-- The character that starts at the byte `a`, or nothing when no character does, and the number
of further bytes that the character or the broken sequence takes. -/
def readChar (a : UInt8) (rest : List UInt8) : Option Char × Nat :=
  if a.toNat < 0x80 then (some (Char.ofNat a.toNat), 0)
  else match continuation? a.toNat with
    | none => (none, 0)
    | some (low, high, count) =>
      let (v, n) := readTail low high count (leadBits a.toNat count) rest
      (v.map Char.ofNat, n)

/-- The characters of a byte sequence, with nothing in the place of each broken sequence. -/
def readAll : List UInt8 → List (Option Char)
  | [] => []
  | a :: rest => (readChar a rest).1 :: readAll (rest.drop (readChar a rest).2)
  termination_by bytes => bytes.length
  decreasing_by rw [List.length_drop, List.length_cons]; omega

/-- U+FFFD. -/
def replacement : Char := '\uFFFD'

/-- The text of a byte sequence, with the replacement character for broken sequences. -/
def decodeLossy (bytes : List UInt8) : List Char :=
  (readAll bytes).map (·.getD replacement)

/-- The text of a byte sequence that is UTF-8 throughout. -/
def decode? (bytes : List UInt8) : Option String :=
  ((readAll bytes).mapM id).map String.ofList

end VolumePlugin.Text.Utf8
