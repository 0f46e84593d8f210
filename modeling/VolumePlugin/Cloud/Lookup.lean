import VolumePlugin.Cloud.Basic
import VolumePlugin.Prog
import VolumePlugin.Text.Blank

/-! Finding things at the provider that are known by their label. -/

namespace VolumePlugin.Cloud

/-- A program that makes calls to the provider and may fail with an error of type `ε`. -/
abbrev Calls (ε : Type) := ExceptT ε (Prog Call.Answer)

def call (c : Call) : Calls CloudError c.Result :=
  ExceptT.mk (Prog.question c)

/-- The first volume that has exactly the label, on the first page of the volumes with it. -/
def findVolume (label : String) : Calls CloudError (Option RemoteVolume) := do
  let page ← call (.listVolumes (.ofLabel label))
  return page.items.find? (·.label = label)

def noInstanceWithLabel (label : String) : CloudError :=
  .notFound s!"instance with label {label}"

/-- Looks for the first instance with the label, page by page, on at most `fuel` pages. -/
def searchInstance (label : String) : Nat → ListOptions → Calls CloudError Instance
  | 0, _ => throw (noInstanceWithLabel label)
  | fuel + 1, options => do
    let page ← call (.listInstances options)
    let next ← page.next
    match page.items.find? (·.label = label) with
    | some found => return found
    | none =>
      match next with
      | some n => searchInstance label fuel { options with page := n }
      | none => throw (noInstanceWithLabel label)

/-- The instance whose identifier stands in a file, if it does. -/
def idInFile? (contents : Option String) : Option Nat := do
  match Text.readUnsigned Text.wordBound (Text.trim (← contents)).toList with
  | .ok id => some id
  | .error _ => none

/-- The instance that a node runs on: the one whose identifier stands in the file, or else the
first one that has the name of the node as its label. A listing has no more pages than there are
page numbers. -/
def resolveInstance (nodeName : String) (file : Option String) : Calls CloudError Instance :=
  match idInFile? file with
  | some id => call (.getInstance id)
  | none => searchInstance nodeName Text.halfWordBound (.ofLabel nodeName)

end VolumePlugin.Cloud
