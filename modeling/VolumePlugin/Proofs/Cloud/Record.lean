import VolumePlugin.Http.Client
import VolumePlugin.Proofs.Json

/-! # Records of volumes as texts

A volume is written as a record with all its fields. It is read from many more texts: fields may be
unknown, missing or in another order, and a status may have any name. Whatever the text was, a
volume that was read from it is read again from the text that is written for it. -/

namespace VolumePlugin

namespace Json

/-! ## Fields -/

theorem fieldOf?_of_mem {members : List (String × Json)} (h : (members.map Prod.fst).Nodup)
    {m : String × Json} (hm : m ∈ members) : fieldOf? members m.1 = some (some m.2) := by
  have hsame : members.filter (fun n => n.1 == m.1) = [m] := by
    induction members with
    | nil => cases hm
    | cons n ns ih =>
        rw [List.map_cons, List.nodup_cons] at h
        rcases List.mem_cons.mp hm with rfl | hm
        · have hothers : ns.filter (fun n => n.1 == m.1) = [] := by
            rw [List.filter_eq_nil_iff]
            intro n hn hname
            exact h.1 (eq_of_beq hname ▸ List.mem_map_of_mem hn)
          rw [List.filter_cons, if_pos (beq_self_eq_true m.1), hothers]
        · have hother : n.1 ≠ m.1 := fun hname => h.1 (hname ▸ List.mem_map_of_mem hm)
          rw [List.filter_cons_of_neg (by simpa using hother), ih h.2 hm]
  rw [fieldOf?, hsame]

/-- The fields of an object are the values of its members, if no name occurs twice. -/
theorem fields?_object {members : List (String × Json)} (h : (members.map Prod.fst).Nodup) :
    fields? (members.map Prod.fst) (.object members) = some (members.map fun m => some m.2) :=
  mapM_map_eq_some fun _ hm => fieldOf?_of_mem h hm

theorem natBelow?_nat {bound n : Nat} (h : n < bound) : natBelow? bound (nat n) = some n :=
  if_pos h

theorem lt_of_natBelow? {bound n : Nat} {v : Json} (h : natBelow? bound v = some n) :
    n < bound := by
  unfold natBelow? at h
  split at h
  · split at h
    · next hlt =>
        cases h
        exact hlt
    · cases h
  · cases h

theorem lt_of_required {bound n : Nat} {field : Option Json}
    (h : required (natBelow? bound) field = some n) : n < bound := by
  obtain ⟨v, -, hv⟩ := Option.bind_eq_some_iff.mp h
  exact lt_of_natBelow? hv

theorem lt_of_optional {bound n : Nat} {field : Option Json}
    (h : optional (nullable (natBelow? bound)) none field = some (some n)) : n < bound := by
  cases field with
  | none => cases h
  | some v =>
      rw [optional] at h
      unfold nullable at h
      split at h
      · cases h
      · obtain ⟨m, hm, hn⟩ := Option.map_eq_some_iff.mp h
        cases hn
        exact lt_of_natBelow? hm

theorem texts?_texts (l : List String) : texts? (texts l) = some l := by
  have hread : (l.map Json.text).mapM text? = some (l.map id) := mapM_map_eq_some fun _ _ => rfl
  rw [List.map_id] at hread
  exact hread

theorem plain_texts (l : List String) : Plain (texts l) := by
  refine .array fun v hv => ?_
  obtain ⟨s, -, rfl⟩ := List.mem_map.mp hv
  exact .text s

end Json

namespace RemoteVolume

/-! ## Volumes -/

/-- The numbers of a volume are those that a word holds. -/
structure Words (v : RemoteVolume) : Prop where
  id : v.id < Text.wordBound
  size : v.size < Text.wordBound
  attachment : ∀ target ∈ v.attachment, target < Text.wordBound

theorem plain_toJson (v : RemoteVolume) : v.toJson.Plain := by
  refine .object ?_
  simp only [List.forall_mem_cons]
  refine ⟨.integer _, .text _, .integer _, .text _, .text _, ?_, .text _, Json.plain_texts _, nofun⟩
  cases v.attachment with
  | none => exact .null
  | some target => exact .integer _

theorem fields?_toJson (v : RemoteVolume) :
    v.toJson.fields? fieldNames = some [some (.nat v.id), some (.text v.label), some (.nat v.size),
      some (.text v.region), some (.text v.status.name),
      some (Json.ofOption Json.nat v.attachment), some (.text v.devicePath),
      some (.texts v.tags)] := by
  have hnames : fieldNames.Nodup := by decide
  exact Json.fields?_object hnames

theorem ofJson?_toJson {v : RemoteVolume} (h : v.Words) : ofJson? v.toJson = some v := by
  have hattachment : Json.nullable (Json.natBelow? Text.wordBound)
      (Json.ofOption Json.nat v.attachment) = some v.attachment := by
    cases hv : v.attachment with
    | none => rfl
    | some target => exact congrArg (Option.map some) (Json.natBelow?_nat (h.attachment target hv))
  simp [ofJson?, fields?_toJson, Json.required, Json.optional, Json.natBelow?_nat h.id,
    Json.natBelow?_nat h.size, Json.text?, Json.texts?_texts, hattachment, VolumeStatus.ofJson?,
    VolumeStatus.ofName_name]

/-- Whatever a volume is read from, its numbers are words: larger ones are refused. -/
theorem words_of_ofJson? {record : Json} {v : RemoteVolume} (h : ofJson? record = some v) :
    v.Words := by
  simp only [ofJson?, Option.bind_eq_bind, Option.bind_eq_some_iff] at h
  obtain ⟨fields, -, h⟩ := h
  split at h
  · simp only [Option.bind_eq_some_iff, Option.pure_def, Option.some.injEq] at h
    obtain ⟨id, hid, label, -, size, hsize, region, -, status, -, attachment, hattachment, -, -,
      tags, -, rfl⟩ := h
    exact {
      id := Json.lt_of_required hid
      size := Json.lt_of_required hsize
      attachment := fun target htarget =>
        Json.lt_of_optional (hattachment.trans (congrArg some htarget)) }
  · cases h

theorem decode_eq_ok_iff {text : String} {v : RemoteVolume} :
    Http.decode ofJson? text = .ok v ↔ (Json.parse text).bind ofJson? = some v := by
  unfold Http.decode
  split <;> simp [*]

theorem decode_render {v : RemoteVolume} (h : v.Words) :
    Http.decode ofJson? v.toJson.render = .ok v := by
  rw [decode_eq_ok_iff, Json.parse_render v.plain_toJson]
  exact ofJson?_toJson h

theorem words_of_decode {text : String} {v : RemoteVolume}
    (h : Http.decode ofJson? text = .ok v) : v.Words := by
  obtain ⟨record, -, hrecord⟩ := Option.bind_eq_some_iff.mp (decode_eq_ok_iff.mp h)
  exact words_of_ofJson? hrecord

/-- A volume is read from the text that is written for it, and so is every volume that was ever
read from a text. -/
theorem records_round_trip :
    (∀ v : RemoteVolume, v.Words → Http.decode ofJson? v.toJson.render = .ok v) ∧
    ∀ (text : String) (v : RemoteVolume), Http.decode ofJson? text = .ok v →
      Http.decode ofJson? v.toJson.render = .ok v :=
  ⟨fun _ h => decode_render h, fun _ _ h => decode_render (words_of_decode h)⟩

/-- A volume with the greatest numbers, and with texts in which much must be escaped. -/
def escaped : RemoteVolume where
  id := 18446744073709551615
  label := "quote \" backslash \\ line\n bell\u0007 zero\u0000"
  size := 18446744073709551615
  region := "é 𝄞"
  status := .contactSupport
  attachment := some 0
  devicePath := ""
  tags := ["", "\u007f", "a/b"]

/-- A record in which a field is unknown, some are missing, the others are in another order, and
the status is new. -/
def unfamiliar : String :=
  " \x7b\"status\":\"offline\", \"hardware\": [\"nvme\", 1.5e3], \"size\": 10,
  \"region\":\"us\\u002deast\", \"label\": \"pvc\\ud834\\udd1e\", \"id\": 7\x7d"

def familiar : RemoteVolume where
  id := 7
  label := "pvc𝄞"
  size := 10
  region := "us-east"
  status := .other
  attachment := none
  devicePath := ""
  tags := []

theorem records_round_trip_unfamiliar :
    escaped.Words ∧ Http.decode ofJson? escaped.toJson.render = .ok escaped ∧
      Http.decode ofJson? unfamiliar = .ok familiar ∧
      Http.decode ofJson? familiar.toJson.render = .ok familiar := by
  have hescaped : escaped.Words := ⟨by decide, by decide, by rintro _ ⟨⟩; decide⟩
  have hread : Http.decode ofJson? unfamiliar = .ok familiar :=
    decode_eq_ok_iff.mpr (by decide +kernel)
  exact ⟨hescaped, records_round_trip.1 _ hescaped, hread, records_round_trip.2 _ _ hread⟩

end RemoteVolume

end VolumePlugin
