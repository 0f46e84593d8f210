import VolumePlugin.Text.Composed
import VolumePlugin.Text.Direction
import VolumePlugin.Text.Folding
import VolumePlugin.Text.Plain
import VolumePlugin.Text.Pieces
import VolumePlugin.Text.Punycode

/-! Names of hosts. A name may hold letters of any script. It is brought into a form in which case
and the form of letters do not count, and labels that are not in ASCII are then written in ASCII. -/

namespace VolumePlugin.Http.HostName

open Text (Direction)

/-- Characters that have a meaning in addresses, so that no host has them in its name. -/
def isForbidden (c : Char) : Bool :=
  [Char.ofNat 0, '\t', '\n', '\r', ' ', '#', '/', ':', '<', '>', '?', '@', '[', '\\', ']', '^',
    '|'].contains c

/-- Characters of ASCII that no name on the network holds. -/
def isRefused (c : Char) : Bool :=
  c.toNat < 0x20 || c.toNat = 0x7F || c = '%' || isForbidden c

def isAscii (s : List Char) : Bool :=
  s.all fun c => c.toNat < 0x80

/-- How a label starts that stands for one in another script. -/
def encodedStart : List Char := ['x', 'n', '-', '-']

/-- The form of a name in which case and the form of characters do not count. -/
def normal (s : List Char) : List Char :=
  Text.composed ((Text.decomposed s).flatMap Text.folded)

/-- The characters that join or part their neighbours and show nothing themselves. -/
def isJoiner (c : Char) : Bool :=
  c = '\u200C' || c = '\u200D'

/-- The characters that stand for others that are missing. -/
def isPlaceholder (c : Char) : Bool :=
  c = '\uFFFC' || c = '\uFFFD'

def isValid (c : Char) : Bool :=
  if c.toNat < 0x80 then !isRefused c
  else (Text.isPlain c || Text.isMark c || isJoiner c) && !isPlaceholder c

/-- The class of marks that take away a vowel. -/
def vowelKiller : Nat := 9

/-- Whether joiners stand only after marks that take away a vowel. -/
def joinsWell : Option Char → List Char → Bool
  | _, [] => true
  | before, c :: rest =>
    (!isJoiner c || before.any fun b => Text.markClass b = vowelKiller) && joinsWell (some c) rest

/-- Whether a label is well formed apart from directions. -/
def isLabel (s : List Char) : Bool :=
  s.all isValid && !s.head?.any Text.isMark && joinsWell none s

/-- Whether the characters of a label keep it apart from labels in the other direction. -/
def keepsDirection (s : List Char) : Bool :=
  let directions := s.map Text.direction
  let last := (directions.filter (· ≠ .mark)).getLast?
  match directions.head? with
  | some .rightToLeft =>
    !directions.contains .leftToRight &&
      (last = some .rightToLeft || last = some .arabicNumber || last = some .europeanNumber) &&
      !(directions.contains .arabicNumber && directions.contains .europeanNumber)
  | some .leftToRight =>
    !directions.contains .rightToLeft && !directions.contains .arabicNumber &&
      (last = some .leftToRight || last = some .europeanNumber)
  | none => true
  | _ => false

/-- Whether a label has characters that are written from right to left. -/
def hasRightToLeft (s : List Char) : Bool :=
  s.any fun c => Text.direction c = .rightToLeft || Text.direction c = .arabicNumber

/-- The label that an encoded label stands for. It must be one that has to be encoded, in its normal
form. -/
def decodeLabel? (s : List Char) : Option (List Char) := do
  let label ← Text.Punycode.decode? s
  if isAscii label || normal label ≠ label then none else return label

/-- A label as it is shown: encoded ones stand for others. -/
def shownLabel? (s : List Char) : Option (List Char) :=
  match Text.dropStart? encodedStart s with
  | some encoded => decodeLabel? encoded
  | none => some s

def asciiLabel (s : List Char) : List Char :=
  if isAscii s then s else encodedStart ++ Text.Punycode.encode s

def toAscii? (s : List Char) : Option (List Char) := do
  let labels ← (Text.pieces '.' (normal s)).mapM shownLabel?
  if labels.all isLabel && (!labels.any hasRightToLeft || labels.all keepsDirection) then
    return List.intercalate ['.'] (labels.map asciiLabel)
  else none

end VolumePlugin.Http.HostName
