/-! Base 64: three bytes as four characters, with equals signs for what is missing at the end. -/

namespace VolumePlugin.Text.Base64

/-- The character for six bits. -/
def sign (n : Nat) : Char :=
  if n < 26 then Char.ofNat ('A'.toNat + n)
  else if n < 52 then Char.ofNat ('a'.toNat + (n - 26))
  else if n < 62 then Char.ofNat ('0'.toNat + (n - 52))
  else if n = 62 then '+'
  else '/'

/-- The characters for the first `count` groups of six bits of three bytes. -/
def signs (count a b c : Nat) : List Char :=
  [sign (a / 4), sign (a % 4 * 16 + b / 16), sign (b % 16 * 4 + c / 64), sign (c % 64)].take count

/-- The text of a byte sequence. -/
def encode : List UInt8 → List Char
  | [] => []
  | [a] => signs 2 a.toNat 0 0 ++ ['=', '=']
  | [a, b] => signs 3 a.toNat b.toNat 0 ++ ['=']
  | a :: b :: c :: rest => signs 4 a.toNat b.toNat c.toNat ++ encode rest

end VolumePlugin.Text.Base64
