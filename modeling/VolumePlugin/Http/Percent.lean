import VolumePlugin.Text.Hex
import VolumePlugin.Text.Utf8

/-! Percent encoding: a character that cannot stand for itself in a part of an address is written as
the percent signs and hexadecimal digits of its bytes. Each part has its own set of such
characters. -/

namespace VolumePlugin.Http.Percent

/-- A byte as a percent sign and two hexadecimal digits. -/
def encodeByte (b : UInt8) : List Char :=
  let digit (n : Nat) : Char := (Nat.digitChar n).toUpper
  ['%', digit (b.toNat / 16), digit (b.toNat % 16)]

/-- A text in which the characters are encoded that cannot stand for themselves. -/
def encode (mustEncode : Char → Bool) (s : List Char) : List Char :=
  s.flatMap fun c => if mustEncode c then (Text.Utf8.encode [c]).flatMap encodeByte else [c]

/-- The bytes of a text, each with a percent sign and two digits in its place if there are such. -/
def decode : List Char → List UInt8
  | '%' :: high :: low :: rest =>
    match Text.hexByte? high low with
    | some b => b :: decode rest
    | none => Text.Utf8.encode ['%'] ++ decode (high :: low :: rest)
  | c :: rest => Text.Utf8.encode [c] ++ decode rest
  | [] => []

/-- Characters that never stand for themselves: controls and all beyond ASCII. -/
def isForeign (c : Char) : Bool :=
  c.toNat < 0x20 || 0x7E < c.toNat

def encodedInFragment (c : Char) : Bool :=
  isForeign c || [' ', '"', '<', '>', Char.ofNat 96].contains c

def encodedInPath (c : Char) : Bool :=
  encodedInFragment c || ['#', '?', Char.ofNat 123, Char.ofNat 125].contains c

def encodedInUser (c : Char) : Bool :=
  encodedInPath c || ['/', ':', ';', '=', '@', '[', '\\', ']', '^', '|'].contains c

def encodedInQuery (c : Char) : Bool :=
  isForeign c || [' ', '"', '#', '<', '>'].contains c

/-- Characters that do not stand for themselves in queries to a host of the network. -/
def encodedInHostQuery (c : Char) : Bool :=
  encodedInQuery c || c = Char.ofNat 39

end VolumePlugin.Http.Percent
