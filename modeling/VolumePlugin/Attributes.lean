/-! Attributes: maps from names to texts, as requests and answers carry them. -/

namespace VolumePlugin

/-- Named texts, each name once. -/
structure Attributes where
  entries : List (String × String)
  deriving DecidableEq, Repr, Inhabited

namespace Attributes

def empty : Attributes := ⟨[]⟩

def single (name value : String) : Attributes := ⟨[(name, value)]⟩

def get? (m : Attributes) (name : String) : Option String :=
  m.entries.lookup name

def getD (m : Attributes) (name : String) : String :=
  (m.get? name).getD ""

/-- Sets the value of a name in the place the name already has, or else at the end. -/
def put (name value : String) : List (String × String) → List (String × String)
  | [] => [(name, value)]
  | (n, v) :: rest => if n = name then (n, value) :: rest else (n, v) :: put name value rest

def insert (m : Attributes) (name value : String) : Attributes :=
  ⟨put name value m.entries⟩

/-- The attributes of a list; of two values for a name the later one counts. -/
def ofList (entries : List (String × String)) : Attributes :=
  entries.foldl (fun m e => m.insert e.1 e.2) empty

/-- The attributes among the given names that are present. -/
def restrict (m : Attributes) (names : List String) : Attributes :=
  ofList (names.filterMap fun name => (m.get? name).map fun value => (name, value))

end Attributes

end VolumePlugin
