import VolumePlugin.Attributes
import VolumePlugin.Json.Basic
import VolumePlugin.Message.Wire
import VolumePlugin.Text.Utf8

/-! Messages as structures with a list of fields. A field says how its value is merged from the wire
form, written to it, and shown in JSON. Fields that have their default value are not written. -/

namespace VolumePlugin

/-- A field of the messages of type `σ`. -/
structure Field (σ : Type) where
  name : String
  /-- The numbers of the field on the wire; a choice between messages has several. -/
  numbers : List Nat
  /-- Merges one occurrence on the wire, at the given number of nesting levels left. -/
  merge : Nat → Nat → Message.Wire.Value → σ → Option σ
  write : σ → List UInt8
  ofJson : Json → σ → Option σ
  toJson : σ → Json
  /-- Whether the value is written in one way only: maps are written in any order. -/
  settled : σ → Bool

/-- A type of messages. -/
class Message (σ : Type) where
  empty : σ
  fields : List (Field σ)

namespace Message

variable {σ τ : Type}

/-- The number of nested messages that a reader accepts. -/
def maxLevels : Nat := 100

/-- Merges fields from the wire into a message. Unknown fields are dropped. -/
def mergeFields [Message σ] (levels : Nat) (m : σ) : List (Nat × Wire.Value) → Option σ
  | [] => some m
  | (number, value) :: rest =>
    match (fields (σ := σ)).find? fun f => f.numbers.contains number with
    | none => mergeFields levels m rest
    | some f => (f.merge levels number value m).bind fun m => mergeFields levels m rest

/-- Merges the wire form of a message into a message. -/
def mergeBytes [Message σ] (levels : Nat) (m : σ) (bytes : List UInt8) : Option σ :=
  (Wire.split levels bytes).bind (mergeFields levels m)

def decode [Message σ] (bytes : List UInt8) : Option σ :=
  mergeBytes maxLevels empty bytes

/-- The wire form of a message. -/
def encode [Message σ] (m : σ) : List UInt8 :=
  (fields (σ := σ)).flatMap (·.write m)

/-- Reads a message from a JSON object. Missing and null members leave the default. -/
def ofJson [Message σ] (v : Json) : Option σ :=
  (fields (σ := σ)).foldlM (fun m f =>
    match v.member? f.name with
    | none | some .null => some m
    | some value => f.ofJson value m) empty

/-- The message as a JSON object with every field. -/
def toJson [Message σ] (m : σ) : Json :=
  .object ((fields (σ := σ)).map fun f => (f.name, f.toJson m))

/-- Whether the message has one wire form only. -/
def settled [Message σ] (m : σ) : Bool :=
  (fields (σ := σ)).all (·.settled m)

/-- Merges the wire form of a message one level further down. -/
def mergeInner [Message τ] (levels : Nat) (m : τ) : Wire.Value → Option τ
  | .bytes payload => mergeBytes (levels - 1) m payload
  | _ => none

end Message

namespace Field

open Message

variable {σ τ : Type}

def text (name : String) (number : Nat) (get : σ → String) (set : String → σ → σ) : Field σ where
  name := name
  numbers := [number]
  merge _ _ value m := match value with
    | .bytes payload => (Text.Utf8.decode? payload).map (set · m)
    | _ => none
  write m := if get m = "" then [] else Wire.bytesField number (Text.Utf8.ofString (get m))
  ofJson v m := v.text?.map (set · m)
  toJson m := .text (get m)
  settled _ := true

def texts (name : String) (number : Nat) (get : σ → List String) (set : List String → σ → σ) :
    Field σ where
  name := name
  numbers := [number]
  merge _ _ value m := match value with
    | .bytes payload => (Text.Utf8.decode? payload).map fun s => set (get m ++ [s]) m
    | _ => none
  write m := (get m).flatMap fun s => Wire.bytesField number (Text.Utf8.ofString s)
  ofJson v m := v.texts?.map (set · m)
  toJson m := .texts (get m)
  settled _ := true

def bool (name : String) (number : Nat) (get : σ → Bool) (set : Bool → σ → σ) : Field σ where
  name := name
  numbers := [number]
  merge _ _ value m := match value with
    | .varint n => some (set (n ≠ 0) m)
    | _ => none
  write m := if get m then Wire.varintField number 1 else []
  ofJson v m := v.bool?.map (set · m)
  toJson m := .bool (get m)
  settled _ := true

def int64 (name : String) (number : Nat) (get : σ → Int64) (set : Int64 → σ → σ) : Field σ where
  name := name
  numbers := [number]
  merge _ _ value m := match value with
    | .varint n => some (set (UInt64.ofNat n).toInt64 m)
    | _ => none
  write m := if get m = 0 then [] else Wire.varintField number (get m).toUInt64.toNat
  ofJson v m := v.integer?.map fun n => set (Int64.ofInt n) m
  toJson m := .integer (get m).toInt
  settled _ := true

/-- A signed 32-bit number, of which the wire form keeps the low 32 bits. Enumerations are such
numbers too. -/
def int32 (name : String) (number : Nat) (get : σ → Int32) (set : Int32 → σ → σ) : Field σ where
  name := name
  numbers := [number]
  merge _ _ value m := match value with
    | .varint n => some (set (UInt64.ofNat n).toUInt32.toInt32 m)
    | _ => none
  write m :=
    if get m = 0 then [] else Wire.varintField number (get m).toInt64.toUInt64.toNat
  ofJson v m := v.integer?.map fun n => set (Int32.ofInt n) m
  toJson m := .integer (get m).toInt
  settled _ := true

def message [Message τ] (name : String) (number : Nat) (get : σ → Option τ) (set : τ → σ → σ) :
    Field σ where
  name := name
  numbers := [number]
  merge levels _ value m :=
    (mergeInner levels ((get m).getD Message.empty) value).map (set · m)
  write m := match get m with
    | none => []
    | some inner => Wire.bytesField number (encode inner)
  ofJson v m := (Message.ofJson v).map (set · m)
  toJson m := Json.ofOption Message.toJson (get m)
  settled m := (get m).all Message.settled

def messages [Message τ] (name : String) (number : Nat) (get : σ → List τ)
    (set : List τ → σ → σ) : Field σ where
  name := name
  numbers := [number]
  merge levels _ value m :=
    (mergeInner levels Message.empty value).map fun inner => set (get m ++ [inner]) m
  write m := (get m).flatMap fun inner => Wire.bytesField number (encode inner)
  ofJson v m := do
    let inner ← (← v.elements?).mapM Message.ofJson
    return set inner m
  toJson m := .array ((get m).map Message.toJson)
  settled m := (get m).all Message.settled

/-- A message with one field, shown as the value of that field. -/
def wrapped [Message τ] (name : String) (number : Nat) (inner : Field τ) (get : σ → Option τ)
    (set : τ → σ → σ) : Field σ :=
  { message name number get set with
    ofJson := fun v m => (inner.ofJson v Message.empty).map (set · m)
    toJson := fun m => Json.ofOption inner.toJson (get m) }

/-- Merges one field of an entry of a map. -/
def mergeEntry (entry : String × String) : Nat × Wire.Value → Option (String × String)
  | (1, value) => match value with
    | .bytes payload => (Text.Utf8.decode? payload).map fun s => (s, entry.2)
    | _ => none
  | (2, value) => match value with
    | .bytes payload => (Text.Utf8.decode? payload).map fun s => (entry.1, s)
    | _ => none
  | _ => some entry

/-- The wire form of an entry of a map. -/
def writeEntry (entry : String × String) : List UInt8 :=
  (if entry.1 = "" then [] else Wire.bytesField 1 (Text.Utf8.ofString entry.1)) ++
    (if entry.2 = "" then [] else Wire.bytesField 2 (Text.Utf8.ofString entry.2))

/-- A map from texts to texts. -/
def attributes (name : String) (number : Nat) (get : σ → Attributes) (set : Attributes → σ → σ) :
    Field σ where
  name := name
  numbers := [number]
  merge levels _ value m := match value with
    | .bytes payload => do
      let parts ← Wire.split (levels - 1) payload
      let entry ← parts.foldlM mergeEntry ("", "")
      return set ((get m).insert entry.1 entry.2) m
    | _ => none
  write m := (get m).entries.flatMap fun entry => Wire.bytesField number (writeEntry entry)
  ofJson v m := match v with
    | .object members => do
      let entries ← members.mapM fun e => e.2.text?.map fun s => (e.1, s)
      return set (Attributes.ofList entries) m
    | _ => none
  toJson m := .object ((get m).entries.map fun e => (e.1, .text e.2))
  settled m := (get m).entries.length ≤ 1

/-- One of the messages that a choice can hold. -/
structure Alternative (σ : Type) where
  name : String
  number : Nat
  merge : Nat → Wire.Value → σ → Option σ
  write : σ → List UInt8
  ofJson : Json → σ → Option σ
  toJson : σ → Option Json
  settled : σ → Bool

/-- The alternative for messages of type `τ`. Of several alternatives on the wire the last stays,
and occurrences of the same one are merged. -/
def Alternative.of [Message τ] (name : String) (number : Nat) (get : σ → Option τ)
    (set : τ → σ → σ) : Alternative σ where
  name := name
  number := number
  merge levels value m :=
    (mergeInner levels ((get m).getD Message.empty) value).map (set · m)
  write m := match get m with
    | none => []
    | some inner => Wire.bytesField number (encode inner)
  ofJson v m := (Message.ofJson v).map (set · m)
  toJson m := (get m).map Message.toJson
  settled m := (get m).all Message.settled

/-- At most one of several messages, shown as an object with one member. -/
def choice (name : String) (alternatives : List (Alternative σ)) : Field σ where
  name := name
  numbers := alternatives.map (·.number)
  merge levels number value m :=
    (alternatives.find? (·.number == number)).bind fun a => a.merge levels value m
  write m := alternatives.flatMap (·.write m)
  ofJson v m := alternatives.foldlM (fun m a =>
    match v.member? a.name with
    | none | some .null => some m
    | some inner => a.ofJson inner m) m
  toJson m :=
    match alternatives.findSome? fun a => (a.toJson m).map fun inner => (a.name, inner) with
    | none => .null
    | some member => .object [member]
  settled m := alternatives.all (·.settled m)

end Field

end VolumePlugin
