import VolumePlugin.Json.Basic

/-! Writing JSON texts in the compact form: no blanks, and only what must be escaped is. -/

namespace VolumePlugin.Json

def writeChar (c : Char) : List Char :=
  if c = '"' then ['\\', '"']
  else if c = '\\' then ['\\', '\\']
  else if c = '\n' then ['\\', 'n']
  else if c = '\r' then ['\\', 'r']
  else if c = '\t' then ['\\', 't']
  else if c.toNat = 8 then ['\\', 'b']
  else if c.toNat = 12 then ['\\', 'f']
  else if c.toNat < 0x20 then
    ['\\', 'u', '0', '0', Nat.digitChar (c.toNat / 16), Nat.digitChar (c.toNat % 16)]
  else [c]

def writeText (s : String) : List Char :=
  '"' :: s.toList.flatMap writeChar ++ ['"']

mutual

/-- The written form of a value. Half of a surrogate pair is written as a replacement character. -/
def write : Json → List Char
  | .null => ['n', 'u', 'l', 'l']
  | .bool true => ['t', 'r', 'u', 'e']
  | .bool false => ['f', 'a', 'l', 's', 'e']
  | .integer n => (toString n).toList
  | .decimal digits => digits.toList
  | .text s => writeText s
  | .unpaired => ['"', '\uFFFD', '"']
  | .array [] => ['[', ']']
  | .array (v :: vs) => '[' :: write v ++ writeElements vs
  | .object [] => [Char.ofNat 123, Char.ofNat 125]
  | .object ((name, v) :: ms) =>
    Char.ofNat 123 :: writeText name ++ ':' :: write v ++ writeMembers ms

/-- The remaining elements and the bracket that closes the array. -/
def writeElements : List Json → List Char
  | [] => [']']
  | v :: vs => ',' :: write v ++ writeElements vs

/-- The remaining members and the brace that closes the object. -/
def writeMembers : List (String × Json) → List Char
  | [] => [Char.ofNat 125]
  | (name, v) :: ms => ',' :: writeText name ++ ':' :: write v ++ writeMembers ms

end

/-- The compact text of a value. -/
def render (v : Json) : String :=
  String.ofList (write v)

end VolumePlugin.Json
