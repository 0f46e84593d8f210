import VolumePlugin.Cloud.Basic
import VolumePlugin.Json.Record

/-! The provider's records in JSON. -/

namespace VolumePlugin

namespace VolumeStatus

/-- A status is its name, or an object whose only member has that name and no value. -/
def ofJson? : Json → Option VolumeStatus
  | .text name => some (ofName name)
  | .object [(name, .null)] => some (ofName name)
  | _ => none

end VolumeStatus

namespace RemoteVolume

/-- The fields of the record of a volume. -/
def fieldNames : List String :=
  ["id", "label", "size", "region", "status", "linode_id", "filesystem_path", "tags"]

def ofJson? (record : Json) : Option RemoteVolume := do
  let word := Json.natBelow? Text.wordBound
  match ← record.fields? fieldNames with
  | [id, label, size, region, status, attachment, devicePath, tags] =>
    return {
      id := ← Json.required word id
      label := ← Json.required Json.text? label
      size := ← Json.required word size
      region := ← Json.required Json.text? region
      status := ← Json.required VolumeStatus.ofJson? status
      attachment := ← Json.optional (Json.nullable word) none attachment
      devicePath := ← Json.optional Json.text? "" devicePath
      tags := ← Json.optional Json.texts? [] tags }
  | _ => none

def toJson (v : RemoteVolume) : Json :=
  .object [("id", .nat v.id), ("label", .text v.label), ("size", .nat v.size),
    ("region", .text v.region), ("status", .text v.status.name),
    ("linode_id", Json.ofOption Json.nat v.attachment), ("filesystem_path", .text v.devicePath),
    ("tags", .texts v.tags)]

end RemoteVolume

namespace CreateOptions

/-- The record that asks for a new volume, without tags if there are none. -/
def toJson (o : CreateOptions) : Json :=
  .object ([("label", .text o.label), ("region", .text o.region), ("size", .nat o.size)] ++
    if o.tags.isEmpty then [] else [("tags", .texts o.tags)])

end CreateOptions

namespace Instance

def mebibyte : Nat := 0x100000

/-- Reads the memory out of the specifications of an instance. They count in MiB, and of the bytes
the low 64 bits are kept. -/
def memoryOfJson? (specs : Json) : Option Nat := do
  match ← specs.fields? ["memory"] with
  | [memory] =>
    return (← Json.required (Json.natBelow? Text.wordBound) memory) * mebibyte % Text.wordBound
  | _ => none

def ofJson? (record : Json) : Option Instance := do
  match ← record.fields? ["id", "label", "region", "specs"] with
  | [id, label, region, specs] =>
    return {
      id := ← Json.required (Json.natBelow? Text.wordBound) id
      label := ← Json.required Json.text? label
      region := ← Json.required Json.text? region
      memory := ← Json.required memoryOfJson? specs }
  | _ => none

end Instance

namespace Page

def ofJson? {α : Type} (item? : Json → Option α) (record : Json) : Option (Page α) := do
  let number := Json.natBelow? Text.halfWordBound
  match ← record.fields? ["data", "page", "pages"] with
  | [items, page, pages] =>
    let items ← Json.required Json.elements? items
    return ⟨← items.mapM item?, ← Json.required number page, ← Json.required number pages⟩
  | _ => none

end Page

namespace CloudError

def reasonOfJson? (record : Json) : Option String := do
  match ← record.fields? ["reason"] with
  | [reason] => Json.required Json.text? reason
  | _ => none

/-- Reads the reasons that the record of a refusal gives. -/
def reasonsOfJson? (record : Json) : Option (List String) := do
  match ← record.fields? ["errors"] with
  | [errors] =>
    (← Json.optional Json.elements? [] errors).mapM reasonOfJson?
  | _ => none

end CloudError

end VolumePlugin
