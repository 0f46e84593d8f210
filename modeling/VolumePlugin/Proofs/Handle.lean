import Mathlib.Algebra.Group.Nat.Defs
import VolumePlugin.Handle
import VolumePlugin.Proofs.Text.Unsigned

/-! Reading the handles that are made for volumes, and the identifiers of nodes. A handle may also
be spelt in other ways than the one in which it is made. -/

namespace VolumePlugin

theorem Text.splitFirst_append {separator : Char} (before after : List Char)
    (h : separator ∉ before) :
    splitFirst separator (before ++ separator :: after) = some (before, after) := by
  induction before with
  | nil => simp [splitFirst]
  | cons c cs ih =>
      have hc : c ≠ separator := fun hc => h (by simp [hc])
      have hcs : separator ∉ cs := fun hcs => h (by simp [hcs])
      rw [List.cons_append, splitFirst, if_neg hc, ih hcs]
      rfl

theorem Text.splitFirst_eq_none {separator : Char} {cs : List Char} (h : separator ∉ cs) :
    splitFirst separator cs = none := by
  induction cs with
  | nil => rfl
  | cons c cs ih =>
      have hc : c ≠ separator := fun hc => h (by simp [hc])
      have hcs : separator ∉ cs := fun hcs => h (by simp [hcs])
      rw [splitFirst, if_neg hc, ih hcs]
      rfl

theorem Text.eq_of_splitFirst {separator : Char} {cs before after : List Char}
    (h : splitFirst separator cs = some (before, after)) :
    separator ∉ before ∧ cs = before ++ separator :: after := by
  induction cs generalizing before with
  | nil => cases h
  | cons c cs ih =>
      rw [splitFirst] at h
      split at h
      · next hc =>
          cases h
          exact ⟨List.not_mem_nil, by rw [hc, List.nil_append]⟩
      · next hc =>
          obtain ⟨⟨before', after'⟩, hsplit, hparts⟩ := Option.map_eq_some_iff.mp h
          cases hparts
          obtain ⟨hbefore, hcs⟩ := ih hsplit
          have hmem : separator ∉ c :: before' := by simp [Ne.symm hc, hbefore]
          exact ⟨hmem, by rw [hcs, List.cons_append]⟩

theorem Text.hyphen_not_mem_toString (n : Nat) : '-' ∉ (toString n).toList := fun hmem =>
  absurd (Text.isDigit_of_mem_toString hmem) (by decide)

/-- A number has no hyphen, so a handle is cut at the right place whatever the label is. -/
theorem VolumeKey.splitFirst_handle (key : VolumeKey) :
    Text.splitFirst '-' (handle key).toList =
      some ((toString key.volume).toList, key.label.toList) := by
  have hlist : (handle key).toList = (toString key.volume).toList ++ '-' :: key.label.toList := by
    change (toString key.volume ++ "-" ++ key.label).toList = _
    rw [String.toList_append, String.toList_append, List.append_assoc]
    rfl
  rw [hlist, Text.splitFirst_append _ _ (Text.hyphen_not_mem_toString key.volume)]

theorem VolumeKey.parse_handle {key : VolumeKey} (h : key.volume < Text.wordBound) :
    parse (handle key) = .ok key := by
  unfold parse
  rw [splitFirst_handle]
  dsimp only
  rw [Text.readUnsigned_toString h]
  simp

theorem VolumeKey.handle_inj {key other : VolumeKey} : handle key = handle other ↔ key = other := by
  refine ⟨fun h => ?_, congrArg handle⟩
  have hsplit := (splitFirst_handle key).symm.trans (h ▸ splitFirst_handle other)
  simp only [Option.some.injEq, Prod.mk.injEq, String.toList_inj] at hsplit
  obtain ⟨hvolume, hlabel⟩ := hsplit
  cases key
  cases other
  simp only [VolumeKey.mk.injEq]
  exact ⟨Text.toString_inj hvolume, hlabel⟩

theorem VolumeKey.handle_ne_empty (key : VolumeKey) : handle key ≠ "" := by
  intro hempty
  have hsplit := splitFirst_handle key
  rw [hempty] at hsplit
  cases hsplit

theorem volumeNumber_handle {key : VolumeKey} (h : key.volume < Text.wordBound) :
    volumeNumber (VolumeKey.handle key) = key.volume := by
  unfold volumeNumber
  rw [VolumeKey.parse_handle h]

/-! ## The spellings of a handle -/

namespace VolumeKey

/-- The texts that are handles of a volume: a numeral of its number, which fits into 64 bits, a
hyphen and its label. -/
inductive Spells : String → VolumeKey → Prop where
  | intro {number : List Char} {volume : Nat} (hnumber : Text.Numeral number volume)
      (hvolume : volume < 2 ^ 64) (label : String) :
      Spells (String.ofList (number ++ '-' :: label.toList)) ⟨volume, label⟩

/-- No numeral holds a hyphen, so the hyphen of a handle is the first one. -/
theorem parse_eq_ok_iff {text : String} {key : VolumeKey} :
    parse text = .ok key ↔ Spells text key := by
  have hword : 0 < Text.wordBound := by decide
  constructor
  · intro h
    unfold parse at h
    cases hsplit : Text.splitFirst '-' text.toList with
    | none => simp [hsplit] at h
    | some parts =>
        obtain ⟨number, label⟩ := parts
        obtain ⟨-, htext⟩ := Text.eq_of_splitFirst hsplit
        cases hread : Text.readUnsigned Text.wordBound number with
        | error cause => simp [hsplit, hread] at h
        | ok volume =>
            simp only [hsplit, hread] at h
            obtain rfl := Except.ok.inj h
            obtain ⟨hnumber, hvolume⟩ := (Text.readUnsigned_eq_ok_iff hword).mp hread
            have hspells := Spells.intro hnumber hvolume (String.ofList label)
            rwa [String.toList_ofList, ← htext, String.ofList_toList] at hspells
  · rintro ⟨hnumber, hvolume, label⟩
    unfold parse
    rw [String.toList_ofList, Text.splitFirst_append _ _ hnumber.hyphen_not_mem]
    dsimp only
    rw [(Text.readUnsigned_eq_ok_iff hword).mpr ⟨hnumber, hvolume⟩]
    dsimp only
    rw [String.ofList_toList]

theorem exists_error_of_not_spells {text : String} (h : ∀ key, ¬ Spells text key) :
    ∃ e, parse text = .error e := by
  cases hparse : parse text with
  | ok key => exact absurd (parse_eq_ok_iff.mp hparse) (h key)
  | error e => exact ⟨e, rfl⟩

end VolumeKey

open VolumeKey (handle parse Spells)

theorem volumeNumber_of_spells {text : String} {key : VolumeKey} (h : Spells text key) :
    volumeNumber text = key.volume := by
  unfold volumeNumber
  rw [VolumeKey.parse_eq_ok_iff.mpr h]

/-- A text that is no handle stands for its hash. -/
theorem volumeNumber_lt_of_not_spells {text : String} (h : ∀ key, ¬ Spells text key) :
    volumeNumber text < 2 ^ 32 := by
  obtain ⟨e, hparse⟩ := VolumeKey.exists_error_of_not_spells h
  unfold volumeNumber
  rw [hparse]
  exact UInt32.toNat_lt _

/-- What a handle is made of can be read from it, whatever the label is, so different volumes or
labels have different handles. The texts that can be read are the spellings of handles, and stand
for the number that they spell. Any other text is refused as an invalid argument, and stands for a
number that fits into 32 bits. -/
theorem handles_exact (id id' : UInt64) (label label' text : String) :
    parse (handle ⟨id.toNat, label⟩) = .ok ⟨id.toNat, label⟩ ∧
      (handle ⟨id.toNat, label⟩ = handle ⟨id'.toNat, label'⟩ → id = id' ∧ label = label') ∧
      (∀ key, parse text = .ok key ↔ Spells text key) ∧
      (∀ key, Spells text key → volumeNumber text = key.volume) ∧
      ((∀ key, ¬ Spells text key) →
        (∃ e message, parse text = .error e ∧ e.toCsi = .invalidArgument message) ∧
          volumeNumber text < 2 ^ 32) := by
  refine ⟨VolumeKey.parse_handle id.toNat_lt, fun hhandle => ?_, fun _ => VolumeKey.parse_eq_ok_iff,
    fun _ => volumeNumber_of_spells, fun hnone => ⟨?_, volumeNumber_lt_of_not_spells hnone⟩⟩
  · obtain ⟨hid, hlabel⟩ := VolumeKey.mk.inj (VolumeKey.handle_inj.mp hhandle)
    exact ⟨UInt64.toNat_inj.mp hid, hlabel⟩
  · obtain ⟨e, hparse⟩ := VolumeKey.exists_error_of_not_spells hnone
    exact ⟨e, e.message, hparse, rfl⟩

/-- A padded numeral is one spelling among others, and the first number of 65 bits has none. -/
theorem handles_exact_of_padded :
    Spells "+0042-a-b" ⟨42, "a-b"⟩ ∧ volumeNumber "+0042-a-b" = 42 ∧
      (∀ key, ¬ Spells "18446744073709551616-a" key) ∧
      volumeNumber "18446744073709551616-a" < 2 ^ 32 := by
  obtain ⟨-, -, hpadded, hnumber, -⟩ := handles_exact 42 42 "a-b" "a-b" "+0042-a-b"
  obtain ⟨-, -, hlarge, -, hrefused⟩ := handles_exact 0 0 "" "" "18446744073709551616-a"
  have hspells : Spells "+0042-a-b" ⟨42, "a-b"⟩ := (hpadded _).mp rfl
  have hnone : ∀ key, ¬ Spells "18446744073709551616-a" key := by
    intro key hkey
    have herror : parse "18446744073709551616-a" =
        .error (.badNumber "18446744073709551616-a" .tooLarge) := rfl
    cases herror.symm.trans ((hlarge key).mpr hkey)
  exact ⟨hspells, hnumber _ hspells, hnone, (hrefused hnone).2⟩

/-- A node is known by its number alone, so all of the text is read. -/
theorem instanceNumber_toString {n : Nat} (h : n < Text.wordBound) :
    instanceNumber (toString n) = n := by
  unfold instanceNumber
  rw [Text.splitFirst_eq_none (Text.hyphen_not_mem_toString n)]
  dsimp only
  rw [Text.readUnsigned_toString h]

end VolumePlugin
