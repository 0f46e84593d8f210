import VolumePlugin.Text.Blank
import VolumePlugin.Text.Utf8

/-! The mount table of a kernel. Every line tells of one mount, in fields between blanks. A blank, a
backslash or a newline inside a field is written as a backslash and the three octal digits of its
byte. -/

namespace VolumePlugin.Mounts

/-- A mount that the table tells of. -/
structure Entry where
  source : String
  target : String
  fsType : String
  deriving DecidableEq, Repr, Inhabited

def octalDigit? (b : UInt8) : Option Nat :=
  if 48 ≤ b.toNat ∧ b.toNat ≤ 55 then some (b.toNat - 48) else none

/-- The byte that three octal digits stand for, if they are digits and stand for one. -/
def escapedByte? (a b c : UInt8) : Option UInt8 := do
  let value := 64 * (← octalDigit? a) + 8 * (← octalDigit? b) + (← octalDigit? c)
  if value < 256 then some (UInt8.ofNat value) else none

def backslash : UInt8 := 92

/-- Reads the bytes of a field. A backslash that starts no escape stands for itself. -/
def unescapeBytes : List UInt8 → List UInt8
  | [] => []
  | x :: rest =>
    match rest with
    | a :: b :: c :: following =>
      if x = backslash then
        match escapedByte? a b c with
        | some byte => byte :: unescapeBytes following
        | none => x :: unescapeBytes (a :: b :: c :: following)
      else x :: unescapeBytes (a :: b :: c :: following)
    | short => x :: short

def unescape (field : List Char) : String :=
  String.ofList (Text.Utf8.decodeLossy (unescapeBytes (Text.Utf8.encode field)))

/-- Reads a line, which must have three fields. -/
def readLine? (line : List Char) : Option Entry :=
  match Text.words line with
  | source :: target :: fsType :: _ =>
    some ⟨unescape source, unescape target, String.ofList fsType⟩
  | _ => none

/-- Reads a table. Lines with too few fields are passed over. -/
def readTable (contents : String) : List Entry :=
  (Text.lines contents.toList).filterMap readLine?

/-- The three octal digits of a character that a byte can hold. -/
def octalDigits (c : Char) : List Char :=
  [Nat.digitChar (c.toNat / 64), Nat.digitChar (c.toNat / 8 % 8), Nat.digitChar (c.toNat % 8)]

/-- Whether a kernel escapes a character in a field. -/
def isEscaped (c : Char) : Bool :=
  c = ' ' || c = '\t' || c = '\n' || c = '\\'

def escape (field : String) : List Char :=
  field.toList.flatMap fun c => if isEscaped c then '\\' :: octalDigits c else [c]

/-- Writes the line for a mount with the given options. -/
def writeLine (e : Entry) (options : String) : String :=
  String.ofList (escape e.source ++ ' ' :: escape e.target ++ ' ' :: e.fsType.toList ++
    ' ' :: options.toList ++ [' ', '0', ' ', '0'])

def isMountPoint (table : List Entry) (target : String) : Bool :=
  table.any (·.target = target)

def sourcesOf (table : List Entry) (target : String) : List String :=
  (table.filter (·.target = target)).map (·.source)

def targetsOf (table : List Entry) (source : String) : List String :=
  (table.filter (·.source = source)).map (·.target)

end VolumePlugin.Mounts
