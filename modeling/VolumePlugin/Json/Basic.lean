/-! JSON values. -/

namespace VolumePlugin

/-- A JSON value. Members of an object keep their order, and a name may occur more than once. -/
inductive Json where
  | null
  | bool (b : Bool)
  /-- A number without fraction and exponent, other than minus zero. -/
  | integer (n : Int)
  /-- Any other number, as it is written. -/
  | decimal (digits : String)
  | text (s : String)
  /-- A text, or an object with the name of a member, that holds half of a surrogate pair. -/
  | unpaired
  | array (elements : List Json)
  | object (members : List (String × Json))
  deriving Repr, Inhabited

namespace Json

def nat (n : Nat) : Json := .integer n

def texts (l : List String) : Json := .array (l.map .text)

/-- A value, or null where there is none. -/
def ofOption {α : Type} (f : α → Json) : Option α → Json
  | none => .null
  | some a => f a

/-- The first member of an object with the given name. -/
def member? (name : String) : Json → Option Json
  | .object members => members.lookup name
  | _ => none

/-- The text of a value that is one. -/
def text? : Json → Option String
  | .text s => some s
  | _ => none

def bool? : Json → Option Bool
  | .bool b => some b
  | _ => none

def integer? : Json → Option Int
  | .integer n => some n
  | _ => none

/-- The natural number of a value that is one below the bound. -/
def natBelow? (bound : Nat) : Json → Option Nat
  | .integer (.ofNat n) => if n < bound then some n else none
  | _ => none

def elements? : Json → Option (List Json)
  | .array l => some l
  | _ => none

/-- The texts of a value that is an array of nothing else. -/
def texts? (v : Json) : Option (List String) := do
  (← v.elements?).mapM text?

mutual

/-- The value with every text in it changed. The names of members stay. -/
def mapTexts (f : String → String) : Json → Json
  | .text s => .text (f s)
  | .array l => .array (mapElements f l)
  | .object members => .object (mapMembers f members)
  | v => v

def mapElements (f : String → String) : List Json → List Json
  | [] => []
  | v :: vs => mapTexts f v :: mapElements f vs

def mapMembers (f : String → String) : List (String × Json) → List (String × Json)
  | [] => []
  | (name, v) :: ms => (name, mapTexts f v) :: mapMembers f ms

end

end Json

end VolumePlugin
