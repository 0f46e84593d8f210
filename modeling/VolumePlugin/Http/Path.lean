import VolumePlugin.Http.Percent
import VolumePlugin.Text.Pieces

/-! Paths of addresses in their normal form: steps to the same or the upper directory are carried
out, and the letters of disks, with which paths of files may start, are kept. -/

namespace VolumePlugin.Http.Path

/-- A segment of a path with dots in place of encoded ones. -/
def plainDots : List Char → List Char
  | '%' :: '2' :: e :: rest =>
    if e = 'e' ∨ e = 'E' then '.' :: plainDots rest else '%' :: '2' :: e :: plainDots rest
  | c :: rest => c :: plainDots rest
  | [] => []

/-- Whether a segment is the letter of a disk. -/
def isDisk : List Char → Bool
  | [letter, mark] => letter.isAlpha && (mark = ':' || mark = '|')
  | _ => false

/-- Whether a segment is the letter of a disk as far as a backslash, so that no step leads out of
it. -/
def holdsDisk (segment : List Char) : Bool :=
  isDisk (segment.take 2) && (segment.length = 2 || segment[2]? = some '\\')

/-- The segments, the latest first, after a step to the upper directory. -/
def leave : List (List Char) → List (List Char)
  | [] => []
  | segment :: done => if holdsDisk segment then segment :: done else done

/-- Carries out the steps of a path, given the segments so far, the latest first. A step to a
directory at the end leaves an empty segment. -/
def walk (ofFile : Bool) (done : List (List Char)) : List (List Char) → List (List Char)
  | [] => done.reverse
  | segment :: rest =>
    let isLast := rest.isEmpty
    match plainDots segment with
    | ['.', '.'] => walk ofFile (if isLast then [] :: leave done else leave done) rest
    | ['.'] => walk ofFile (if isLast then [] :: done else done) rest
    | _ =>
      if ofFile ∧ done = [] ∧ isDisk segment then walk ofFile [segment.take 1 ++ [':']] rest
      else walk ofFile (segment :: done) rest

/-- The segments of a text. Backslashes separate them too where the scheme is a known one. -/
def segments (isKnown : Bool) (s : List Char) : List (List Char) :=
  Text.pieces '/' (if isKnown then s.map fun c => if c = '\\' then '/' else c else s)

/-- The normal form of the path whose first slash is followed by a text. -/
def normal (isKnown ofFile : Bool) (s : List Char) : List (List Char) :=
  walk ofFile [] ((segments isKnown s).map (Percent.encode Percent.encodedInPath))

def text (segments : List (List Char)) : String :=
  String.ofList ('/' :: List.intercalate ['/'] segments)

/-- The path of a file: no empty segments stand at its start. -/
def fileText (segments : List (List Char)) : String :=
  text (match segments.dropWhile List.isEmpty with
    | [] => [[]]
    | kept => kept)

end VolumePlugin.Http.Path
