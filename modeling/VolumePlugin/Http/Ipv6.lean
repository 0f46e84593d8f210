import VolumePlugin.Http.Ipv4
import VolumePlugin.Text.Unsigned

/-! Addresses of eight pieces of sixteen bits. Two colons stand for the zeros that are missing, and
the last two pieces may be written as four bytes. -/

namespace VolumePlugin.Http.Ipv6

/-- Reads a piece: one to four hexadecimal digits. -/
def readPiece? (s : List Char) : Option Nat :=
  if 1 ≤ s.length ∧ s.length ≤ 4 then Ipv4.readDigits? 16 0 s else none

/-- Reads a byte in decimal digits without leading zeros. -/
def readByte? (s : List Char) : Option Nat :=
  if s.length = 0 ∨ (1 < s.length ∧ s.head? = some '0') then none
  else match Ipv4.readDigits? 10 0 s with
    | some n => if n < 256 then some n else none
    | none => none

def readBytes? (s : List Char) : Option (List Nat) := do
  match ← (Text.pieces '.' s).mapM readByte? with
  | [a, b, c, d] => return [256 * a + b, 256 * c + d]
  | _ => none

/-- Reads the last pieces: one piece or four bytes. -/
def readLast? (s : List Char) : Option (List Nat) :=
  if s.contains '.' then readBytes? s else (readPiece? s).map ([·])

/-- Reads pieces with colons between them. -/
def readPieces? (endsAddress : Bool) : List (List Char) → Option (List Nat)
  | [] => some []
  | [last] => if endsAddress then readLast? last else (readPiece? last).map ([·])
  | s :: rest => do return (← readPiece? s) :: (← readPieces? endsAddress rest)

/-- Reads pieces with colons between them, or nothing. -/
def readSide? (endsAddress : Bool) (s : List Char) : Option (List Nat) :=
  if s.isEmpty then some [] else readPieces? endsAddress (Text.pieces ':' s)

/-- The part before the first two colons and the part after them. -/
def splitGap? : List Char → Option (List Char × List Char)
  | ':' :: ':' :: rest => some ([], rest)
  | c :: rest => (splitGap? rest).map fun p => (c :: p.1, p.2)
  | [] => none

/-- Reads an address. A gap stands for at least one piece. -/
def parse? (s : List Char) : Option (List Nat) := do
  match splitGap? s with
  | none =>
    let pieces ← readSide? true s
    if pieces.length = 8 then return pieces else none
  | some (left, right) =>
    let left ← readSide? false left
    let right ← readSide? true right
    if left.length + right.length ≤ 7 then
      return left ++ List.replicate (8 - left.length - right.length) 0 ++ right
    else none

def zeros (pieces : List Nat) : Nat :=
  (pieces.takeWhile (· = 0)).length

/-- Where the first of the longest runs of zeros starts, and its length. -/
def longestZeros : Nat → List Nat → Nat × Nat
  | _, [] => (0, 0)
  | position, p :: rest =>
    let here := zeros (p :: rest)
    let later := longestZeros (position + 1) rest
    if here = 0 ∨ here < later.2 then later else (position, here)

def joined (pieces : List Nat) : String :=
  ":".intercalate (pieces.map fun p => String.ofList (Nat.toDigits 16 p))

/-- The text of an address, with a gap for the longest run of more than one zero. -/
def text (pieces : List Nat) : String :=
  let (start, length) := longestZeros 0 pieces
  if length ≤ 1 then joined pieces
  else s!"{joined (pieces.take start)}::{joined (pieces.drop (start + length))}"

end VolumePlugin.Http.Ipv6
