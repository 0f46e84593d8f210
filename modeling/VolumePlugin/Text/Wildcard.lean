/-! Wildcard patterns for paths. A question mark stands for one character, a star for any text, a
class in brackets for one character of it or, after an exclamation mark, for one that is not in it.
Two stars stand for any directories and must be a whole component of the pattern. -/

namespace VolumePlugin.Text.Wildcard

/-- A part of a pattern. -/
inductive Token where
  | literal (c : Char)
  | anyChar
  | anyText
  | anyDirectories
  /-- One of the characters between the bounds of a range, or none of them. -/
  | oneOf (negated : Bool) (ranges : List (Char × Char))
  deriving DecidableEq, Repr

/-- Whether a part that stands for one character stands for this one. -/
def Token.accepts (c : Char) : Token → Bool
  | literal d => c = d
  | anyChar => true
  | anyText | anyDirectories => false
  | oneOf negated ranges => negated != ranges.any fun r => r.1 ≤ c && c ≤ r.2

/-- The ranges that a class lists. A hyphen between two characters makes them a range. -/
def ranges : List Char → List (Char × Char)
  | a :: '-' :: b :: rest => (a, b) :: ranges rest
  | a :: rest => (a, a) :: ranges rest
  | [] => []

/-- The class after an opening bracket, and the rest of the pattern. The first character of a class
does not close it. -/
def parseClass? : List Char → Option (Token × List Char)
  | '!' :: first :: rest =>
    if rest.contains ']' then
      some (.oneOf true (ranges (first :: rest.takeWhile (· ≠ ']'))),
        (rest.dropWhile (· ≠ ']')).drop 1)
    else none
  | '!' :: [] => none
  | first :: rest =>
    if rest.contains ']' then
      some (.oneOf false (ranges (first :: rest.takeWhile (· ≠ ']'))),
        (rest.dropWhile (· ≠ ']')).drop 1)
    else none
  | [] => none

/-- Reads the rest of a pattern, at most `fuel` parts of it, given the character before it. -/
def parseFrom? : Nat → Option Char → List Char → Option (List Token)
  | _, _, [] => some []
  | 0, _, _ :: _ => none
  | fuel + 1, previous, '*' :: rest =>
    let following := rest.dropWhile (· = '*')
    match rest.length - following.length with
    | 0 => (parseFrom? fuel (some '*') following).map (.anyText :: ·)
    | 1 =>
      if previous = none ∨ previous = some '/' then
        match following with
        | [] => some [.anyDirectories]
        | '/' :: following => (parseFrom? fuel (some '/') following).map (.anyDirectories :: ·)
        | _ => none
      else none
    | _ => none
  | fuel + 1, _, '[' :: rest => do
    let (token, following) ← parseClass? rest
    return token :: (← parseFrom? fuel (some ']') following)
  | fuel + 1, _, c :: rest =>
    (parseFrom? fuel (some c) rest).map ((if c = '?' then .anyChar else .literal c) :: ·)

def parse? (pattern : List Char) : Option (List Token) :=
  parseFrom? pattern.length none pattern

/-- The text, and what is left of it after each of its characters. -/
def suffixes : List Char → List (List Char)
  | [] => [[]]
  | c :: cs => (c :: cs) :: suffixes cs

/-- The text, what is left of it after each slash, and nothing. -/
def directorySuffixes (s : List Char) : List (List Char) :=
  s :: after s
where
  /-- What is left after each slash, and nothing. -/
  after : List Char → List (List Char)
    | [] => [[]]
    | c :: cs => if c = '/' then cs :: after cs else after cs

/-- What comes of comparing a text with a pattern. -/
inductive Verdict where
  | agrees
  | differs
  /-- The text ends before the pattern. No less of the text can agree with it either. -/
  | ends
  deriving DecidableEq, Repr

/-- The first verdict on one of several texts that settles the matter. -/
def firstSettled (compare : List Char → Verdict) : List (List Char) → Verdict
  | [] => .differs
  | s :: rest =>
    match compare s with
    | .differs => firstSettled compare rest
    | settled => settled

/-- Compares a text with a pattern. -/
def compare : List Token → List Char → Verdict
  | [], s => if s.isEmpty then .agrees else .differs
  | .anyText :: rest, s => firstSettled (fun r => compare rest r) (suffixes s)
  | .anyDirectories :: rest, s => firstSettled (fun r => compare rest r) (directorySuffixes s)
  | _ :: _, [] => .ends
  | token :: rest, c :: cs => if token.accepts c then compare rest cs else .differs

/-- Whether a pattern stands for a text. -/
def matchesText (pattern : List Token) (s : List Char) : Bool :=
  compare pattern s = .agrees

end VolumePlugin.Text.Wildcard
