import VolumePlugin.Text.Plain

/-! Quoted text: what an error message shows of a text it was given. The quote and the backslash
are escaped, the usual controls have short escapes, and every other character that is not plain is
written by its code point. -/

namespace VolumePlugin.Text

/-- A character by its code point in braces. -/
def codePointEscape (c : Char) : List Char :=
  ['\\', 'u', Char.ofNat 123] ++ Nat.toDigits 16 c.toNat ++ [Char.ofNat 125]

/-- A character as it stands between quotes of the given kind. -/
def quotedChar (quote c : Char) : List Char :=
  if c = Char.ofNat 0 then ['\\', '0']
  else if c = '\t' then ['\\', 't']
  else if c = '\r' then ['\\', 'r']
  else if c = '\n' then ['\\', 'n']
  else if c = '\\' then ['\\', '\\']
  else if c = quote then ['\\', quote]
  else if isPlain c then [c]
  else codePointEscape c

def doubleQuote : Char := Char.ofNat 34

def singleQuote : Char := Char.ofNat 39

/-- A text between double quotes. -/
def quoted (s : String) : String :=
  String.ofList (doubleQuote :: s.toList.flatMap (quotedChar doubleQuote) ++ [doubleQuote])

/-- A character between single quotes. -/
def quotedSingle (c : Char) : String :=
  String.ofList (singleQuote :: quotedChar singleQuote c ++ [singleQuote])

end VolumePlugin.Text
