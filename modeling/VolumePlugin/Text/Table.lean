import VolumePlugin.Text.Blank

/-! Tables about characters, written down as text. Each entry is for a range of code points in
hexadecimal digits, such as `e1-e9`, or for every second one of a range, such as `e1-e9/2`. Behind a
colon it may have values. The entries are in the order of the code points. -/

namespace VolumePlugin.Text.Table

/-- What a table says about a range of code points. -/
structure Entry where
  first : Nat
  last : Nat
  /-- The distance of the code points in the range. -/
  step : Nat := 1
  values : List Nat := []
  deriving Repr, Inhabited

/-- Where a code point of the range goes if the first one goes to the only value; several values are
for all of the range. -/
def Entry.image (e : Entry) (code : Nat) : List Nat :=
  match e.values with
  | [v] => [v + (code - e.first)]
  | vs => vs

def Entry.covers (e : Entry) (code : Nat) : Bool :=
  e.first ≤ code && code ≤ e.last && (code - e.first) % e.step = 0

/-- What was read of an entry, without and with the number that is being read. -/
structure Reading where
  numbers : List Nat := []
  number : Option Nat := none
  marks : List Char := []

/-- Reads one more character of an entry. -/
def Reading.next (r : Reading) (c : Char) : Reading :=
  let n := ['0', '1', '2', '3', '4', '5', '6', '7', '8', '9', 'a', 'b', 'c', 'd', 'e', 'f'].idxOf c
  if n < 16 then { r with number := some (16 * r.number.getD 0 + n) }
  else { numbers := r.numbers ++ r.number.toList, number := none, marks := r.marks ++ [c] }

/-- The entry that was read. -/
def Reading.entry (r : Reading) : Entry :=
  let numbers := r.numbers ++ r.number.toList
  let first := numbers.headD 0
  match r.marks with
  | '-' :: '/' :: _ =>
    { first, last := numbers.getD 1 first, step := numbers.getD 2 1, values := numbers.drop 3 }
  | '-' :: _ => { first, last := numbers.getD 1 first, values := numbers.drop 2 }
  | _ => { first, last := first, values := numbers.drop 1 }

def ofText (s : String) : Array Entry :=
  ((words s.toList).map fun w => (w.foldl Reading.next {}).entry).toArray

/-- The entry about a code point among those from index `low` on, below index `high`. Halving finds
it. -/
def search (table : Array Entry) (code : Nat) : Nat → Nat → Nat → Option Entry
  | 0, _, _ => none
  | fuel + 1, low, high =>
    if low < high then
      let middle := (low + high) / 2
      match table[middle]? with
      | none => none
      | some e =>
        if code < e.first then search table code fuel low middle
        else if e.last < code then search table code fuel (middle + 1) high
        else if e.covers code then some e
        else none
    else none

def find? (table : Array Entry) (code : Nat) : Option Entry :=
  search table code table.size 0 table.size

end VolumePlugin.Text.Table
