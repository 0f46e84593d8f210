import VolumePlugin.Text.Pieces

/-! Texts in any script in ASCII letters, digits and hyphens. The ASCII characters come first.
Behind a hyphen it is told for the others, from the least code point up, how far each is from the
one before it, in digits whose weight adapts to the distances. -/

namespace VolumePlugin.Text.Punycode

/-- The character for a digit: a letter for the first twenty-six. -/
def digitChar (d : Nat) : Char :=
  if d < 26 then Char.ofNat ('a'.toNat + d) else Char.ofNat ('0'.toNat + (d - 26))

def digit? (c : Char) : Option Nat :=
  if 'a' ≤ c ∧ c ≤ 'z' then some (c.toNat - 'a'.toNat)
  else if 'A' ≤ c ∧ c ≤ 'Z' then some (c.toNat - 'A'.toNat)
  else if '0' ≤ c ∧ c ≤ '9' then some (c.toNat - '0'.toNat + 26)
  else none

/-- The least value at a place that no further digit follows. -/
def threshold (place bias : Nat) : Nat :=
  if place ≤ bias then 1 else if bias + 26 ≤ place then 26 else place - bias

theorem threshold_pos (place bias : Nat) : 0 < threshold place bias := by
  unfold threshold
  split
  · omega
  · split <;> omega

/-- Shrinks a distance until it is small, and tells how far the bias moves. -/
def shrink (distance moved : Nat) : Nat × Nat :=
  if 455 < distance then shrink (distance / 35) (moved + 36) else (distance, moved)
termination_by distance
decreasing_by omega

/-- The bias after a distance, which the first of them shapes less. -/
def adapt (distance count : Nat) (isFirst : Bool) : Nat :=
  let d := if isFirst then distance / 700 else distance / 2
  let (d, moved) := shrink (d + d / count) 0
  moved + 36 * d / (d + 38)

/-- The digits of a distance. -/
def digits (bias place distance : Nat) : List Char :=
  let t := threshold place bias
  if distance < t then [digitChar distance]
  else
    digitChar (t + (distance - t) % (36 - t)) ::
      digits bias (place + 36) ((distance - t) / (36 - t))
termination_by distance
decreasing_by
  have hpos := threshold_pos place bias
  have hle : (distance - threshold place bias) / (36 - threshold place bias) ≤
      distance - threshold place bias := Nat.div_le_self _ _
  omega

/-- How far a text is written. -/
structure Writing where
  distance : Nat := 0
  bias : Nat := 72
  /-- How many characters are written. -/
  count : Nat
  isFirst : Bool := true
  /-- What is written, in reverse. -/
  out : List Char := []

/-- Passes a character while those with a code point are written. -/
def Writing.pass (code : Nat) (w : Writing) (c : Char) : Writing :=
  if c.toNat < code then { w with distance := w.distance + 1 }
  else if c.toNat = code then
    { distance := 0, bias := adapt w.distance (w.count + 1) w.isFirst, count := w.count + 1
      isFirst := false, out := (digits w.bias 36 w.distance).reverse ++ w.out }
  else w

/-- Writes the characters with the given code points, of which `next` is the least possible. -/
def writeAll (s : List Char) : Nat → List Nat → Writing → Writing
  | _, [], w => w
  | next, code :: codes, w =>
    let w := { w with distance := w.distance + (code - next) * (w.count + 1) }
    let w := s.foldl (Writing.pass code) w
    writeAll s (code + 1) codes { w with distance := w.distance + 1 }

/-- Puts a code point into a list in order, unless it is there. -/
def insertCode (code : Nat) : List Nat → List Nat
  | [] => [code]
  | c :: rest =>
    if code < c then code :: c :: rest
    else if code = c then c :: rest
    else c :: insertCode code rest

/-- The code points of a text beyond ASCII, in order. -/
def foreignCodes (s : List Char) : List Nat :=
  ((s.map Char.toNat).filter (0x80 ≤ ·)).foldr insertCode []

/-- The text in ASCII. -/
def encode (s : List Char) : List Char :=
  let plain := s.filter fun c => c.toNat < 0x80
  let w := writeAll s 0x80 (foreignCodes s) { count := plain.length }
  (if plain.isEmpty then [] else plain ++ ['-']) ++ w.out.reverse

/-- Reads a distance whose digits so far have a value, and gives the rest. -/
def readDistance? (bias : Nat) : Nat → Nat → Nat → List Char → Option (Nat × List Char)
  | _, _, _, [] => none
  | place, weight, value, c :: rest => do
    let d ← digit? c
    let t := threshold place bias
    if d < t then return (value + d * weight, rest)
    else readDistance? bias (place + 36) (weight * (36 - t)) (value + d * weight) rest

/-- How far a text is read. -/
structure Reading where
  code : Nat := 0x80
  /-- Where the next character with this code point may stand. -/
  place : Nat := 0
  bias : Nat := 72
  isFirst : Bool := true
  out : List Char

/-- Takes in a distance. -/
def Reading.next? (r : Reading) (distance : Nat) : Option Reading :=
  let count := r.out.length + 1
  let position := r.place + distance
  let code := r.code + position / count
  let place := position % count
  if code.isValidChar then
    some {
      code, place := place + 1, bias := adapt distance count r.isFirst, isFirst := false
      out := r.out.take place ++ Char.ofNat code :: r.out.drop place }
  else none

/-- Reads distances, at most `fuel` of them. -/
def readAll? : Nat → Reading → List Char → Option Reading
  | _, r, [] => some r
  | 0, _, _ :: _ => none
  | fuel + 1, r, input => do
    let (distance, rest) ← readDistance? r.bias 36 1 0 input
    readAll? fuel (← r.next? distance) rest

/-- The part before the last hyphen and the part after it. All of the text is the latter if there is
no hyphen. -/
def splitLast (s : List Char) : List Char × List Char :=
  match Text.splitFirst '-' s.reverse with
  | some (after, before) => (before.reverse, after.reverse)
  | none => ([], s)

/-- The text that an ASCII text stands for. -/
def decode? (s : List Char) : Option (List Char) := do
  let (plain, digits) := splitLast s
  if plain.all fun c => c.toNat < 0x80 then
    return (← readAll? digits.length { out := plain } digits).out
  else none

end VolumePlugin.Text.Punycode
