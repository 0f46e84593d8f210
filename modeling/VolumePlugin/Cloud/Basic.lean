import VolumePlugin.Error
import VolumePlugin.Text.Unsigned

/-! What the provider of block storage knows, and the calls that it answers. Identifiers and sizes
are below 2^64, numbers of pages below 2^32. -/

namespace VolumePlugin

/-- How far the provider is with a volume. -/
inductive VolumeStatus where
  | creating
  | active
  | resizing
  | contactSupport
  /-- Any status without a name of its own. -/
  | other
  deriving DecidableEq, Repr, Inhabited

namespace VolumeStatus

def name : VolumeStatus → String
  | creating => "creating"
  | active => "active"
  | resizing => "resizing"
  | contactSupport => "contact_support"
  | other => "other"

def ofName (name : String) : VolumeStatus :=
  match name with
  | "creating" => creating
  | "active" => active
  | "resizing" => resizing
  | "contact_support" => contactSupport
  | _ => other

/-- The title of a status in messages. -/
def title : VolumeStatus → String
  | creating => "Creating"
  | active => "Active"
  | resizing => "Resizing"
  | contactSupport => "ContactSupport"
  | other => "Other"

theorem ofName_name (s : VolumeStatus) : ofName s.name = s := by
  cases s <;> rfl

end VolumeStatus

/-- A volume as the provider describes it. -/
structure RemoteVolume where
  id : Nat
  label : String
  /-- The size in GiB. -/
  size : Nat
  region : String
  status : VolumeStatus
  /-- The instance that the volume is attached to. -/
  attachment : Option Nat
  /-- The path of the device on the instance that the volume is attached to. -/
  devicePath : String
  tags : List String
  deriving DecidableEq, Repr, Inhabited

structure Instance where
  id : Nat
  label : String
  region : String
  /-- The memory in bytes. -/
  memory : Nat
  deriving DecidableEq, Repr, Inhabited

/-- What a new volume is to be like. -/
structure CreateOptions where
  label : String
  region : String
  /-- The size in GiB. -/
  size : Nat
  tags : List String
  deriving DecidableEq, Repr, Inhabited

/-- Which part of a listing is asked for. -/
structure ListOptions where
  /-- The number of the page, counted from one; zero stands for the first page. -/
  page : Nat := 0
  /-- The label that the listed objects have. -/
  label : Option String := none
  /-- The number of objects on a page; the provider chooses it when it is not given. -/
  pageSize : Option Nat := none
  deriving DecidableEq, Repr, Inhabited

namespace ListOptions

def ofPage (page : Nat) : ListOptions := { page := page }

def ofLabel (label : String) : ListOptions := { page := 1, label := some label }

end ListOptions

structure Page (α : Type) where
  items : List α
  /-- The number of this page. -/
  page : Nat
  pages : Nat
  deriving DecidableEq, Repr, Inhabited

namespace Page

variable {α : Type}

/-- The number after the number of a page, if a page can have it. -/
def successor? (page : Nat) : Option Nat :=
  if page + 1 < Text.halfWordBound then some (page + 1) else none

/-- The number of the page that follows, if one does. The successor is worked out before it is known
to be wanted, so the greatest page number overflows even on the last page. -/
def next (p : Page α) : Except CloudError (Option Nat) :=
  match successor? p.page with
  | none => .error .pageOverflow
  | some following => .ok (if p.page < p.pages then some following else none)

theorem next_of_lt {p : Page α} (h : p.page + 1 < Text.halfWordBound) :
    p.next = .ok (if p.page < p.pages then some (p.page + 1) else none) := by
  unfold next successor?
  rw [if_pos h]

end Page

namespace Cloud

/-- The calls that the provider answers. -/
inductive Call where
  | listVolumes (options : ListOptions)
  | getVolume (volume : Nat)
  | createVolume (options : CreateOptions)
  | deleteVolume (volume : Nat)
  | attachVolume (volume target : Nat)
  | detachVolume (volume : Nat)
  | resizeVolume (volume size : Nat)
  | cloneVolume (volume : Nat) (label : String)
  | listInstances (options : ListOptions)
  | getInstance (id : Nat)
  deriving DecidableEq, Repr, Inhabited

namespace Call

/-- What a call yields when it succeeds. -/
abbrev Result : Call → Type
  | listVolumes _ => Page RemoteVolume
  | getVolume _ | createVolume _ | attachVolume .. | cloneVolume .. => RemoteVolume
  | deleteVolume _ | detachVolume _ | resizeVolume .. => Unit
  | listInstances _ => Page Instance
  | getInstance _ => Instance

abbrev Answer (call : Call) : Type :=
  Except CloudError call.Result

end Call

end Cloud

end VolumePlugin
