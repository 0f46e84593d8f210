import VolumePlugin.Label

/-! Labels of equal and of different names. A label keeps as many characters of a name as the start
of labels leaves room for, and nothing else of the name counts. -/

namespace VolumePlugin.Label

/-- How many characters of a name fit into a label. -/
def room (start : Option String) : Nat :=
  maxLength - (start.getD "").toList.length

/-- The part of a name that its label keeps. -/
def kept (name : String) (start : Option String) : List Char :=
  (withoutHyphens name.toList).take (room start)

theorem normalized_eq (name : String) (start : Option String) :
    normalized name start =
      String.ofList ((start.getD "").toList.take maxLength ++ kept name start) := by
  unfold normalized kept room
  cases start with
  | none => simp
  | some s =>
      dsimp only
      split
      · next hempty =>
          obtain rfl : s = "" := by simpa using hempty
          simp
      · simp [List.take_append, List.take_take]

/-- Two names have the same label exactly if the label keeps the same part of both. -/
theorem normalized_eq_iff (a b : String) (start : Option String) :
    normalized a start = normalized b start ↔ kept a start = kept b start := by
  rw [normalized_eq, normalized_eq, String.ofList_inj, List.append_cancel_left_eq]

theorem hyphen_not_mem_withoutHyphens (name : List Char) : '-' ∉ withoutHyphens name := by
  simp [withoutHyphens]

theorem withoutHyphens_of_not_mem {name : List Char} (h : '-' ∉ name) :
    withoutHyphens name = name := by
  refine List.filter_eq_self.mpr fun c hc => ?_
  have hne : c ≠ '-' := fun heq => h (heq ▸ hc)
  simpa using hne

/-- A text that passes the check is short and has only characters that are allowed. -/
theorem checkPrefix_eq_ok {text : String} (h : checkPrefix text = .ok ()) :
    text.toList.length ≤ maxPrefixLength ∧ ∀ c ∈ text.toList, isAllowed c = true := by
  unfold checkPrefix at h
  split at h
  · cases h
  · next hlong =>
      refine ⟨Nat.le_of_not_lt hlong, ?_⟩
      cases hbad : text.toList.find? fun c => !isAllowed c with
      | some c => simp [hbad] at h
      | none => simpa using List.find?_eq_none.mp hbad

/-! ## Labels that begin with a checked text -/

section Starts

variable {start : Option String} (hstart : ∀ text ∈ start, checkPrefix text = .ok ())

include hstart

theorem length_start_le : (start.getD "").toList.length ≤ maxPrefixLength := by
  cases start with
  | none => exact Nat.zero_le _
  | some text => exact (checkPrefix_eq_ok (hstart text rfl)).1

theorem hyphen_not_mem_start : '-' ∉ (start.getD "").toList := by
  cases start with
  | none => exact List.not_mem_nil
  | some text =>
      intro hmem
      have hallowed := (checkPrefix_eq_ok (hstart text rfl)).2 '-' hmem
      exact absurd hallowed (by decide)

/-- The start of a label is never cut off. -/
theorem toList_normalized (name : String) :
    (normalized name start).toList = (start.getD "").toList ++ kept name start := by
  have hlength : (start.getD "").toList.length ≤ maxLength :=
    Nat.le_trans (length_start_le hstart) (by decide)
  rw [normalized_eq, String.toList_ofList, List.take_of_length_le hlength]

theorem length_normalized_le (name : String) :
    (normalized name start).toList.length ≤ maxLength := by
  have hlength : (start.getD "").toList.length ≤ maxLength :=
    Nat.le_trans (length_start_le hstart) (by decide)
  have hkept : (kept name start).length ≤ room start := List.length_take_le ..
  rw [toList_normalized hstart, List.length_append]
  unfold room at hkept
  omega

theorem hyphen_not_mem_normalized (name : String) : '-' ∉ (normalized name start).toList := by
  rw [toList_normalized hstart, List.mem_append]
  rintro (hmem | hmem)
  · exact hyphen_not_mem_start hstart hmem
  · exact hyphen_not_mem_withoutHyphens _ (List.mem_of_mem_take hmem)

end Starts

/-! ## Labels that begin with nothing else than the name -/

section Unstarted

variable {start : Option String} (hstart : start.getD "" = "")

include hstart

theorem toList_normalized_of_unstarted (name : String) :
    (normalized name start).toList = (withoutHyphens name.toList).take maxLength := by
  rw [normalized_eq, String.toList_ofList, kept, room, hstart]
  simp

/-- There is nothing left in a label that its own label could leave out. -/
theorem normalized_normalized (name : String) :
    normalized (normalized name start) start = normalized name start := by
  have hhyphen : '-' ∉ (withoutHyphens name.toList).take maxLength := fun hmem =>
    hyphen_not_mem_withoutHyphens _ (List.mem_of_mem_take hmem)
  rw [← String.toList_inj, toList_normalized_of_unstarted hstart,
    toList_normalized_of_unstarted hstart, withoutHyphens_of_not_mem hhyphen, List.take_take,
    Nat.min_self]

end Unstarted

/-- A label has at most 32 characters, none of which is a hyphen, and begins with the start of
labels. Where labels start with nothing, a label is its own label. Two names have the same label if
and only if, hyphens left out, they agree in as many characters as the start leaves of the 32. -/
theorem labels_agree_iff {start : Option String}
    (hstart : ∀ text ∈ start, checkPrefix text = .ok ()) (a b : String) :
    let taken := (start.getD "").length
    let significant := fun name : String => (name.toList.filter (· ≠ '-')).take (32 - taken)
    (normalized a start).length ≤ 32 ∧ '-' ∉ (normalized a start).toList ∧
      (start.getD "").toList <+: (normalized a start).toList ∧
      (start.getD "" = "" → normalized (normalized a start) start = normalized a start) ∧
      (normalized a start = normalized b start ↔ significant a = significant b) := by
  intro taken significant
  have hkept : ∀ name, kept name start = significant name := by
    intro name
    unfold kept room
    rw [String.length_toList]
    rfl
  refine ⟨?_, hyphen_not_mem_normalized hstart a, ?_,
    fun hnone => normalized_normalized hnone a, ?_⟩
  · rw [← String.length_toList]
    exact length_normalized_le hstart a
  · rw [toList_normalized hstart]
    exact List.prefix_append ..
  · rw [normalized_eq_iff, hkept, hkept]

/-- With twelve characters taken, names can differ from the 21st character on, hyphens apart. -/
theorem labels_agree_of_long :
    checkPrefix "k8s_prod.1.x" = .ok () ∧
      normalized "pvc-0123456789abcdefg-old" (some "k8s_prod.1.x") =
        normalized "pvc-0123456789-abcdefg-new" (some "k8s_prod.1.x") ∧
      normalized "pvc-0123456789abcdefg" (some "k8s_prod.1.x") ≠
        normalized "pvc-0123456789abcdef" (some "k8s_prod.1.x") := by
  have hchecked : checkPrefix "k8s_prod.1.x" = .ok () := rfl
  have hstart : ∀ text ∈ some "k8s_prod.1.x", checkPrefix text = .ok () := by
    rintro text ⟨⟩
    exact hchecked
  refine ⟨hchecked, ?_, ?_⟩
  · exact (labels_agree_iff hstart _ _).2.2.2.2.mpr (by decide +kernel)
  · exact fun heq => absurd ((labels_agree_iff hstart _ _).2.2.2.2.mp heq) (by decide +kernel)

end VolumePlugin.Label
