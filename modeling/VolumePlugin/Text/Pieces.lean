/-! Parts of texts: cutting a text at separators, finding a part in it and putting another one in
its place. -/

namespace VolumePlugin.Text

/-- The pieces between the separators; there is one more piece than there are separators. -/
def pieces (separator : Char) : List Char → List (List Char)
  | [] => [[]]
  | c :: cs =>
    if c = separator then [] :: pieces separator cs
    else match pieces separator cs with
      | [] => [[c]]
      | p :: ps => (c :: p) :: ps

/-- The part before the first separator and the part after it, if there is a separator. -/
def splitFirst (separator : Char) : List Char → Option (List Char × List Char)
  | [] => none
  | c :: cs =>
    if c = separator then some ([], cs)
    else (splitFirst separator cs).map fun p => (c :: p.1, p.2)

/-- The rest of a text that starts with the given characters. -/
def dropStart? (start text : List Char) : Option (List Char) :=
  match start, text with
  | [], rest => some rest
  | _ :: _, [] => none
  | a :: start, b :: text => if a = b then dropStart? start text else none

/-- Whether the characters of `part` occur next to each other somewhere in the text. -/
def occursIn (part : List Char) : List Char → Bool
  | [] => part.isEmpty
  | c :: cs => (dropStart? part (c :: cs)).isSome || occursIn part cs

/-- The text with every occurrence of `part` replaced, from left to right. The first `skip`
characters belong to an occurrence that was replaced already. -/
def substituteFrom (part other : List Char) (skip : Nat) : List Char → List Char
  | [] => []
  | c :: cs =>
    match skip with
    | skip + 1 => substituteFrom part other skip cs
    | 0 =>
      if part ≠ [] ∧ (dropStart? part (c :: cs)).isSome then
        other ++ substituteFrom part other (part.length - 1) cs
      else c :: substituteFrom part other 0 cs

/-- The text with every occurrence of `part` replaced by `other`. -/
def substitute (part other s : String) : String :=
  String.ofList (substituteFrom part.toList other.toList 0 s.toList)

/-- The text with its ASCII letters in lower case. -/
def lowerAscii (s : String) : String :=
  String.ofList (s.toList.map Char.toLower)

end VolumePlugin.Text
