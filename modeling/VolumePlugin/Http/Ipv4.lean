import VolumePlugin.Text.Hex
import VolumePlugin.Text.Pieces

/-! Addresses of four bytes. They are written with up to four numbers, each with the digits of the
base that its start tells, and the last number fills the bytes that are left. -/

namespace VolumePlugin.Http.Ipv4

/-- Reads digits of a base after those that have a value already. -/
def readDigits? (base : Nat) : Nat → List Char → Option Nat
  | value, [] => some value
  | value, c :: cs => do
    let d ← Text.hexDigit? c
    if d < base then readDigits? base (base * value + d) cs else none

/-- Reads a number. It is hexadecimal after a zero and an x, and octal after another zero. -/
def readNumber? : List Char → Option Nat
  | [] => none
  | '0' :: 'x' :: digits | '0' :: 'X' :: digits => readDigits? 16 0 digits
  | '0' :: c :: digits => readDigits? 8 0 (c :: digits)
  | digits => readDigits? 10 0 digits

/-- The parts of a name. One point may stand at the end. -/
def parts (name : List Char) : List (List Char) :=
  let all := Text.pieces '.' name
  if 1 < all.length ∧ all.getLast? = some [] then all.dropLast else all

/-- Whether the last part of a name is a number, so that the name must be an address. -/
def endsInNumber (name : List Char) : Bool :=
  match (parts name).getLast? with
  | some last => (!last.isEmpty && last.all Char.isDigit) || (readNumber? last).isSome
  | none => false

/-- The address with given first bytes and a number for the others. -/
def combine? (first : List Nat) (last : Nat) : Option Nat :=
  if first.length ≤ 3 ∧ first.all (· < 256) ∧ last < Nat.pow 256 (4 - first.length) then
    some (first.foldl (fun a b => 256 * a + b) 0 * Nat.pow 256 (4 - first.length) + last)
  else none

def parse? (name : List Char) : Option Nat := do
  let numbers ← (parts name).mapM readNumber?
  combine? numbers.dropLast (← numbers.getLast?)

def bytes (address : Nat) : List Nat :=
  [address / 0x1000000 % 256, address / 0x10000 % 256, address / 0x100 % 256, address % 256]

def text (address : Nat) : String :=
  ".".intercalate ((bytes address).map toString)

/-- Reads an address that is written in the same way as it is shown. -/
def parseUsual? (s : List Char) : Option Nat :=
  (parse? s).filter fun address => (text address).toList = s

end VolumePlugin.Http.Ipv4
