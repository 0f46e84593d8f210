import VolumePlugin.Error
import VolumePlugin.Text.Quoted

/-! Labels: the names that volumes carry at the provider. A label has at most 32 characters and no
hyphen from the volume's name, so that a handle splits at its first hyphen. -/

namespace VolumePlugin.Label

def maxLength : Nat := 32

def maxPrefixLength : Nat := 12

def withoutHyphens (name : List Char) : List Char :=
  name.filter (· ≠ '-')

/-- The label for a requested name: the configured start, then the name without hyphens, cut off
at the greatest length. Long names can share a label. -/
def normalized (name : String) (start : Option String) : String :=
  let label := (withoutHyphens name.toList).take maxLength
  match start with
  | none => String.ofList label
  | some s =>
    if s.isEmpty then String.ofList label
    else String.ofList ((s.toList ++ label).take maxLength)

/-- Why a text cannot be the configured start of labels. -/
inductive PrefixError where
  | tooLong (text : String)
  | badCharacter (text : String) (c : Char)
  deriving DecidableEq, Repr

def PrefixError.message : PrefixError → String
  | tooLong text =>
    s!"volume label prefix {Text.quoted text} is longer than {maxPrefixLength} characters"
  | badCharacter text c =>
    s!"volume label prefix {Text.quoted text} contains invalid character {Text.quotedSingle c}"

/-- The characters that the provider allows in labels, the hyphen apart. -/
def isAllowed (c : Char) : Bool :=
  c.isAlphanum || c = '_' || c = '.'

/-- Checks the configured start of labels: its length first, then its characters in order. -/
def checkPrefix (text : String) : Except PrefixError Unit :=
  if maxPrefixLength < text.toList.length then .error (.tooLong text)
  else match text.toList.find? fun c => !isAllowed c with
    | some c => .error (.badCharacter text c)
    | none => .ok ()

end VolumePlugin.Label
