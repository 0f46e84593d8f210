import VolumePlugin.Json.Basic

/-! Records in JSON. A record is an object, in which members that are no field are ignored and no
field occurs twice, or an array that holds the first fields in their order. -/

namespace VolumePlugin.Json

/-- The value of a field that occurs at most once among the members. -/
def fieldOf? (members : List (String × Json)) (name : String) : Option (Option Json) :=
  match members.filter fun m => m.1 == name with
  | [] => some none
  | [m] => some (some m.2)
  | _ => none

/-- The values of the fields of a record, one for each name, with nothing for a missing field. -/
def fields? (names : List String) : Json → Option (List (Option Json))
  | .object members => names.mapM (fieldOf? members)
  | .array elements =>
    if elements.length ≤ names.length then
      some (elements.map some ++ List.replicate (names.length - elements.length) none)
    else none
  | _ => none

def required {α : Type} (read : Json → Option α) (field : Option Json) : Option α :=
  field.bind read

def optional {α : Type} (read : Json → Option α) (default : α) : Option Json → Option α
  | none => some default
  | some v => read v

/-- A value that may be null. -/
def nullable {α : Type} (read : Json → Option α) : Json → Option (Option α)
  | .null => some none
  | v => (read v).map some

end VolumePlugin.Json
