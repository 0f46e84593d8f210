import VolumePlugin.Text.Decomposition
import VolumePlugin.Text.Mark

/-! The composed form of a text: marks stand in a fixed order, and as many of them as possible are
one character with the character that they belong to. Texts that mean the same have the same
composed form. -/

namespace VolumePlugin.Text

def firstSyllable : Nat := 0xAC00

/-- The number of syllables: there are 19 leading consonants, 21 vowels and 27 trailing consonants,
any of which may be missing. -/
def syllableCount : Nat := 19 * 21 * 28

/-- The parts of a syllable of Hangul. -/
def syllableParts? (code : Nat) : Option (List Nat) :=
  if firstSyllable ≤ code ∧ code < firstSyllable + syllableCount then
    let n := code - firstSyllable
    let trailing := n % 28
    some ([0x1100 + n / (21 * 28), 0x1161 + n / 28 % 21] ++
      if trailing = 0 then [] else [0x11A7 + trailing])
  else none

/-- The syllable of Hangul that a leading consonant and a vowel make, or a syllable without and a
trailing consonant. -/
def syllable? (a b : Nat) : Option Nat :=
  if 0x1100 ≤ a ∧ a < 0x1100 + 19 ∧ 0x1161 ≤ b ∧ b < 0x1161 + 21 then
    some (firstSyllable + ((a - 0x1100) * 21 + (b - 0x1161)) * 28)
  else if firstSyllable ≤ a ∧ a < firstSyllable + syllableCount ∧ (a - firstSyllable) % 28 = 0 ∧
      0x11A7 < b ∧ b < 0x11A7 + 28 then
    some (a + (b - 0x11A7))
  else none

/-- The parts of a character, down to the given depth. -/
def takeApart : Nat → Nat → List Nat
  | 0, code => [code]
  | depth + 1, code =>
    match (syllableParts? code).orElse fun _ => parts? code with
    | some l => l.flatMap (takeApart depth)
    | none => [code]

/-- No character has parts of parts of parts of parts that have parts again. -/
def partDepth : Nat := 4

/-- Puts a mark behind the marks at the end whose class is not higher. The text is in reverse. -/
def insertMark (c : Char) : List Char → List Char
  | [] => [c]
  | d :: rest =>
    if markClass c ≠ 0 ∧ markClass c < markClass d then d :: insertMark c rest else c :: d :: rest

def ordered (s : List Char) : List Char :=
  (s.foldl (fun done c => insertMark c done) []).reverse

def decomposed (s : List Char) : List Char :=
  ordered ((s.flatMap fun c => takeApart partDepth c.toNat).map Char.ofNat)

/-- A text that is being composed. -/
structure Composing where
  /-- What comes before the last character that can be composed, in reverse. -/
  done : List Char := []
  /-- The last character that can be composed. -/
  start : Option Char := none
  /-- What follows it, in reverse. -/
  after : List Char := []

/-- Whether something stands between the last character and a further one, so that they stay
apart. -/
def Composing.blocks (s : Composing) (c : Char) : Bool :=
  match s.after with
  | [] => false
  | d :: _ => markClass c ≤ markClass d

/-- Takes one more character in. -/
def Composing.next (s : Composing) (c : Char) : Composing :=
  let whole := s.start.bind fun a =>
    if s.blocks c then none
    else (syllable? a.toNat c.toNat).orElse fun _ => whole? a.toNat c.toNat
  match whole with
  | some code => { s with start := some (Char.ofNat code) }
  | none =>
    if markClass c = 0 then
      { done := s.after ++ s.start.toList ++ s.done, start := some c, after := [] }
    else { s with after := c :: s.after }

def Composing.text (s : Composing) : List Char :=
  (s.after ++ s.start.toList ++ s.done).reverse

def composed (s : List Char) : List Char :=
  ((decomposed s).foldl Composing.next {}).text

end VolumePlugin.Text
