import VolumePlugin.Json.Basic
import VolumePlugin.Text.Hex
import VolumePlugin.Text.Unsigned

/-! Reading JSON texts. A text is one value with blanks around it. Escapes that name half of a
surrogate pair are accepted, and the text that holds them is marked as unpaired. -/

namespace VolumePlugin.Json

/-- The four characters that may stand between the parts of a value. -/
def isGap (c : Char) : Bool :=
  c = ' ' || c = '\t' || c = '\n' || c = '\r'

def skipGap (cs : List Char) : List Char :=
  cs.dropWhile isGap

def hexQuad? (a b c d : Char) : Option Nat := do
  let high := (← Text.hexDigit? a) * 16 + (← Text.hexDigit? b)
  return (high * 16 + (← Text.hexDigit? c)) * 16 + (← Text.hexDigit? d)

/-- The character that a short escape stands for. -/
def shortEscape? : Char → Option Char
  | '"' => some '"'
  | '\\' => some '\\'
  | '/' => some '/'
  | 'b' => some (Char.ofNat 8)
  | 'f' => some (Char.ofNat 12)
  | 'n' => some '\n'
  | 'r' => some '\r'
  | 't' => some '\t'
  | _ => none

/-- The code units of a text up to its closing quote, and what follows the quote. Controls must be
escaped. -/
def readUnits : List Char → Option (List Nat × List Char)
  | [] => none
  | '"' :: rest => some ([], rest)
  | '\\' :: 'u' :: a :: b :: c :: d :: rest => do
    let unit ← hexQuad? a b c d
    let (units, rest) ← readUnits rest
    return (unit :: units, rest)
  | '\\' :: e :: rest => do
    let c ← shortEscape? e
    let (units, rest) ← readUnits rest
    return (c.toNat :: units, rest)
  | c :: rest =>
    if c = '\\' || c.toNat < 0x20 then none
    else do
      let (units, rest) ← readUnits rest
      return (c.toNat :: units, rest)

/-- The characters of a sequence of code units, if no half of a pair stands alone. -/
def joinUnits : List Nat → Option (List Char)
  | [] => some []
  | u :: rest =>
    if 0xD800 ≤ u ∧ u ≤ 0xDBFF then
      match rest with
      | v :: rest =>
        if 0xDC00 ≤ v ∧ v ≤ 0xDFFF then
          (joinUnits rest).map
            (Char.ofNat (0x10000 + (u - 0xD800) * 0x400 + (v - 0xDC00)) :: ·)
        else none
      | [] => none
    else if 0xDC00 ≤ u ∧ u ≤ 0xDFFF then none
    else (joinUnits rest).map (Char.ofNat u :: ·)

/-- Reads a text after its opening quote. -/
def readText (cs : List Char) : Option (Option String × List Char) := do
  let (units, rest) ← readUnits cs
  return ((joinUnits units).map String.ofList, rest)

/-- The digits a text starts with and the rest. -/
def spanDigits (cs : List Char) : List Char × List Char :=
  (cs.takeWhile Char.isDigit, cs.dropWhile Char.isDigit)

def digitsValue (digits : List Char) : Nat :=
  digits.foldl (fun n c => 10 * n + (c.toNat - 48)) 0

/-- The point and the digits after it, if a text starts with them; a point needs a digit. -/
def readFraction : List Char → Option (List Char × List Char)
  | '.' :: rest =>
    match spanDigits rest with
    | ([], _) => none
    | (digits, rest) => some ('.' :: digits, rest)
  | rest => some ([], rest)

/-- The exponent, if a text starts with one; its mark needs a digit. -/
def readExponent : List Char → Option (List Char × List Char)
  | [] => some ([], [])
  | c :: rest =>
    if c = 'e' || c = 'E' then
      let (sign, rest) := match rest with
        | '+' :: rest => (['+'], rest)
        | '-' :: rest => (['-'], rest)
        | rest => ([], rest)
      match spanDigits rest with
      | ([], _) => none
      | (digits, rest) => some (c :: sign ++ digits, rest)
    else some ([], c :: rest)

/-- Reads a number; only a lone zero starts with a zero. -/
def readNumber (cs : List Char) : Option (Json × List Char) := do
  let (sign, rest) := match cs with
    | '-' :: rest => (['-'], rest)
    | rest => ([], rest)
  let (digits, rest) := spanDigits rest
  if digits = [] ∨ (digits.head? = some '0' ∧ digits ≠ ['0']) then none
  else
    let (fraction, rest) ← readFraction rest
    let (exponent, rest) ← readExponent rest
    let n := digitsValue digits
    if fraction = [] ∧ exponent = [] ∧ ¬(sign = ['-'] ∧ n = 0) then
      return (.integer (if sign = [] then (n : Int) else -(n : Int)), rest)
    else return (.decimal (String.ofList (sign ++ digits ++ fraction ++ exponent)), rest)

/-- The object with the given members, unless the name of a member is unpaired. -/
def ofMembers (members : List (Option String × Json)) : Json :=
  match members.mapM fun m => m.1.map fun name => (name, m.2) with
  | some members => .object members
  | none => .unpaired

mutual

/-- Reads a value. The fuel bounds the nesting and the number of parts. -/
def readValue : Nat → List Char → Option (Json × List Char)
  | 0, _ => none
  | fuel + 1, cs =>
    match skipGap cs with
    | 'n' :: 'u' :: 'l' :: 'l' :: rest => some (.null, rest)
    | 't' :: 'r' :: 'u' :: 'e' :: rest => some (.bool true, rest)
    | 'f' :: 'a' :: 'l' :: 's' :: 'e' :: rest => some (.bool false, rest)
    | '"' :: rest => do
      let (s, rest) ← readText rest
      return (match s with | some s => .text s | none => .unpaired, rest)
    | '[' :: rest =>
      match skipGap rest with
      | ']' :: rest => some (.array [], rest)
      | rest => do
        let (elements, rest) ← readElements fuel rest
        return (.array elements, rest)
    | c :: rest =>
      if c = Char.ofNat 123 then
        match skipGap rest with
        | [] => none
        | d :: rest =>
          if d = Char.ofNat 125 then some (.object [], rest)
          else do
            let (members, rest) ← readMembers fuel (d :: rest)
            return (ofMembers members, rest)
      else readNumber (c :: rest)
    | [] => none

/-- Reads at least one element and the bracket that closes the array. -/
def readElements : Nat → List Char → Option (List Json × List Char)
  | 0, _ => none
  | fuel + 1, cs => do
    let (v, rest) ← readValue fuel cs
    match skipGap rest with
    | ']' :: rest => return ([v], rest)
    | ',' :: rest =>
      let (vs, rest) ← readElements fuel rest
      return (v :: vs, rest)
    | _ => none

/-- Reads at least one member and the brace that closes the object. -/
def readMembers : Nat → List Char → Option (List (Option String × Json) × List Char)
  | 0, _ => none
  | fuel + 1, cs =>
    match skipGap cs with
    | '"' :: rest => do
      let (name, rest) ← readText rest
      match skipGap rest with
      | ':' :: rest =>
        let (v, rest) ← readValue fuel rest
        match skipGap rest with
        | ',' :: rest =>
          let (ms, rest) ← readMembers fuel rest
          return ((name, v) :: ms, rest)
        | c :: rest => if c = Char.ofNat 125 then return ([(name, v)], rest) else none
        | [] => none
      | _ => none
    | _ => none

end

/-- The value of a JSON text. Each part of a value takes a character, so twice the length of the
text is fuel enough. -/
def parse (s : String) : Option Json :=
  let cs := s.toList
  match readValue (2 * cs.length + 2) cs with
  | some (v, rest) => if skipGap rest = [] then some v else none
  | none => none

end VolumePlugin.Json
