import Mathlib.Data.List.Basic
import VolumePlugin.Proofs.Mounts.Escapes
import VolumePlugin.Proofs.Text.Pieces

/-! # Reading the mount table of a kernel

A kernel escapes four characters in the fields of a mount, and those that it escapes are found
again. All other blank characters it writes as they are, and reading takes them for the end of a
field. -/

namespace VolumePlugin.Mounts

open Text

/-! ## Fields -/

/-- Whether a character is blank and yet not escaped. -/
def isBare (c : Char) : Bool :=
  isBlank c && !isEscaped c

/-- The parts of a field between its bare blanks. -/
def runs (text : List Char) : List (List Char) :=
  (text.splitOnP isBare).filter (· ≠ [])

theorem forall_of_any_eq_false {p : Char → Bool} {text : List Char} (h : text.any p = false) :
    ∀ c ∈ text, p c = false := by
  simpa using h

theorem isBlank_eq_false_of_mem_escaped {text : List Char} (h : ∀ c ∈ text, isBare c = false) :
    ∀ c ∈ escaped text, isBlank c = false := by
  intro c hc
  obtain ⟨d, hd, hc⟩ := List.mem_flatMap.mp hc
  cases hescaped : isEscaped d with
  | true =>
      rw [hescaped, if_pos rfl] at hc
      have hnone : ('\\' :: octalDigits d).any isBlank = false := by
        rcases isEscaped_cases hescaped with rfl | rfl | rfl | rfl <;> rfl
      exact forall_of_any_eq_false hnone c hc
  | false =>
      rw [hescaped] at hc
      obtain rfl : c = d := by simpa using hc
      simpa [isBare, hescaped] using h c hd

/-- A field is cut at its bare blanks, whatever is escaped in it. -/
theorem splitOnP_escaped (text : List Char) :
    (escaped text).splitOnP isBlank = (text.splitOnP isBare).map escaped := by
  induction text with
  | nil => rfl
  | cons c cs ih =>
      obtain ⟨w, ws, hws⟩ := List.exists_cons_of_ne_nil (List.splitOnP_ne_nil isBare cs)
      rw [hws] at ih
      rw [List.splitOnP_cons_eq_if_modifyHead, hws, escaped_cons]
      cases hc : isBare c with
      | true =>
          rw [isBare, Bool.and_eq_true, Bool.not_eq_true'] at hc
          rw [escaped_singleton, if_neg (by simp [hc.2]), List.singleton_append,
            List.splitOnP_cons_eq_if_modifyHead, if_pos hc.1, ih]
          rfl
      | false =>
          have hplain : ∀ d ∈ escaped [c], isBlank d = false :=
            isBlank_eq_false_of_mem_escaped (by simpa using hc)
          rw [splitOnP_append hplain, ih]
          simp [escaped_cons c w]

theorem words_escaped (text : List Char) : words (escaped text) = (runs text).map escaped := by
  rw [words_eq_splitOnP, splitOnP_escaped, List.filter_map, runs]
  simp [Function.comp_def, escaped_eq_nil_iff]

theorem runs_of_forall {text : List Char} (hne : text ≠ []) (h : ∀ c ∈ text, isBare c = false) :
    runs text = [text] := by
  simp [runs, List.splitOnP_eq_singleton h, hne]

/-! ## Lines -/

/-- Whether a mount can be told of in one line: no field is empty, and nothing in the type has to be
escaped. -/
structure Proper (e : Entry) : Prop where
  source : e.source ≠ ""
  target : e.target ≠ ""
  fsType : e.fsType ≠ ""
  plain : ∀ c ∈ e.fsType.toList, isEscaped c = false

instance (e : Entry) : Decidable (Proper e) :=
  decidable_of_iff (e.source ≠ "" ∧ e.target ≠ "" ∧ e.fsType ≠ "" ∧
      e.fsType.toList.any isEscaped = false)
    ⟨fun ⟨hsource, htarget, htype, hplain⟩ =>
      ⟨hsource, htarget, htype, forall_of_any_eq_false hplain⟩,
      fun h => ⟨h.source, h.target, h.fsType, by simpa using h.plain⟩⟩

/-- Whether no field of a mount holds a bare blank. -/
def Legible (e : Entry) : Prop :=
  ∀ field ∈ [e.source, e.target, e.fsType], ∀ c ∈ field.toList, isBare c = false

instance (e : Entry) : Decidable (Legible e) :=
  decidable_of_iff (∀ field ∈ [e.source, e.target, e.fsType], field.toList.any isBare = false)
    (by simp [Legible])

/-- The line of a mount with the given options. -/
def lineOf (e : Entry) (options : String) : List Char :=
  (writeLine e (String.ofList (escape options))).toList

/-- The fields of that line. -/
def fieldsOf (e : Entry) (options : String) : List (List Char) :=
  [e.source.toList, e.target.toList, e.fsType.toList, options.toList, ['0'], ['0']]

theorem escaped_of_forall {text : List Char} (h : ∀ c ∈ text, isEscaped c = false) :
    escaped text = text := by
  induction text with
  | nil => rfl
  | cons c cs ih =>
      rw [List.forall_mem_cons] at h
      rw [← List.singleton_append, escaped_append, escaped_singleton, ih h.2, h.1]
      rfl

theorem lineOf_eq {e : Entry} (he : Proper e) (options : String) :
    lineOf e options = [' '].intercalate ((fieldsOf e options).map escaped) := by
  have hzero : escaped ['0'] = ['0'] := rfl
  simp [lineOf, writeLine, fieldsOf, List.intercalate_cons_cons, escape_eq_escaped, hzero,
    escaped_of_forall he.plain]

theorem words_lineOf {e : Entry} (he : Proper e) (options : String) :
    words (lineOf e options) = ((fieldsOf e options).flatMap runs).map escaped := by
  rw [lineOf_eq he, words_intercalate (by decide), List.flatMap_map, List.map_flatMap]
  simp only [words_escaped]

theorem readLine?_lineOf {e : Entry} (he : Proper e) (hlegible : Legible e) (options : String) :
    readLine? (lineOf e options) = some e := by
  have hfield : ∀ field : String, field ≠ "" → field ∈ [e.source, e.target, e.fsType] →
      runs field.toList = [field.toList] := by
    intro field hne hfield
    exact runs_of_forall (by simpa using hne) (hlegible field hfield)
  have hruns : (fieldsOf e options).flatMap runs =
      e.source.toList :: e.target.toList :: e.fsType.toList ::
        [options.toList, ['0'], ['0']].flatMap runs := by
    simp only [fieldsOf, List.flatMap_cons]
    rw [hfield _ he.source (by simp), hfield _ he.target (by simp), hfield _ he.fsType (by simp)]
    rfl
  rw [readLine?, words_lineOf he, hruns]
  simp [unescape_escaped, escaped_of_forall he.plain]

/-- What is read from a line has no bare blank in it. -/
theorem legible_of_readLine? {e e' : Entry} (he : Proper e) {options : String}
    (h : readLine? (lineOf e options) = some e') : Legible e' := by
  have hbare : ∀ run ∈ (fieldsOf e options).flatMap runs, ∀ c ∈ run, isBare c = false := by
    intro run hrun
    obtain ⟨field, -, hrun⟩ := List.mem_flatMap.mp hrun
    exact forall_of_mem_splitOnP (List.mem_filter.mp hrun).1
  rw [readLine?, words_lineOf he] at h
  match hruns : (fieldsOf e options).flatMap runs with
  | [] | [_] | [_, _] => simp [hruns] at h
  | source :: target :: fsType :: rest =>
      simp only [hruns, List.map_cons, unescape_escaped] at h
      rw [hruns] at hbare
      obtain rfl := Option.some.inj h
      have htype : ∀ c ∈ escaped fsType, isBare c = false := by
        intro c hc
        rw [isBare, isBlank_eq_false_of_mem_escaped (hbare fsType (by simp)) c hc]
        rfl
      intro field hfield
      rcases List.mem_cons.mp hfield with rfl | hfield
      · simpa using hbare source (by simp)
      · rcases List.mem_cons.mp hfield with rfl | hfield
        · simpa using hbare target (by simp)
        · rw [List.mem_singleton.mp hfield]
          simpa using htype

/-! ## Tables -/

/-- The table that tells of mounts with their options. Every line ends with a newline. -/
def written (mounts : List (Entry × String)) : String :=
  String.ofList (mounts.flatMap fun m => lineOf m.1 m.2 ++ ['\n'])

theorem newline_notMem_escaped (text : List Char) : '\n' ∉ escaped text := by
  intro h
  obtain ⟨c, -, hc⟩ := List.mem_flatMap.mp h
  cases hescaped : isEscaped c with
  | true =>
      rw [hescaped, if_pos rfl] at hc
      rcases isEscaped_cases hescaped with rfl | rfl | rfl | rfl <;> revert hc <;> decide
  | false =>
      rw [hescaped] at hc
      obtain rfl : '\n' = c := by simpa using hc
      cases hescaped

theorem lines_written {mounts : List (Entry × String)} (h : ∀ m ∈ mounts, Proper m.1) :
    lines (written mounts).toList = mounts.map fun m => lineOf m.1 m.2 := by
  rw [written, String.toList_ofList]
  induction mounts with
  | nil => rfl
  | cons m rest ih =>
      rw [List.forall_mem_cons] at h
      have hnewline : '\n' ∉ lineOf m.1 m.2 := by
        have htype : '\n' ∉ m.1.fsType.toList := fun hmem => by cases h.1.plain '\n' hmem
        simp [lineOf, writeLine, escape_eq_escaped, newline_notMem_escaped, htype]
      have hlast : (lineOf m.1 m.2).getLast? ≠ some '\r' := by
        simp [lineOf, writeLine, List.getLast?_cons, List.getLast?_append]
      rw [List.flatMap_cons, List.append_assoc, List.singleton_append,
        lines_append_of_getLast? hnewline hlast, ih h.2, List.map_cons]

/-- Mounts are read as they were written if and only if none of them has a bare blank in a field. -/
theorem readTable_written_iff {mounts : List (Entry × String)} (h : ∀ m ∈ mounts, Proper m.1) :
    readTable (written mounts) = mounts.map (·.1) ↔ ∀ m ∈ mounts, Legible m.1 := by
  have hread : readTable (written mounts) =
      mounts.filterMap fun m => readLine? (lineOf m.1 m.2) := by
    rw [readTable, lines_written h, List.filterMap_map, Function.comp_def]
  rw [hread]
  constructor
  · intro hsame m hm
    have hmem : m.1 ∈ mounts.filterMap fun m => readLine? (lineOf m.1 m.2) := by
      rw [hsame]
      exact List.mem_map_of_mem hm
    obtain ⟨m', hm', hline⟩ := List.mem_filterMap.mp hmem
    exact legible_of_readLine? (h m' hm') hline
  · intro hlegible
    have hline : ∀ m ∈ mounts, readLine? (lineOf m.1 m.2) = some m.1 :=
      fun m hm => readLine?_lineOf (h m hm) (hlegible m hm) m.2
    rw [List.filterMap_congr hline]
    exact congrFun (List.filterMap_eq_map (f := (·.1))) mounts

/-- A share whose paths hold every character that is escaped. -/
def share : Entry :=
  ⟨"//nas/my share", "/mnt/a\tb\nc\\040d é", "cifs"⟩

/-- A mount that has no device, on a blank path. -/
def scratch : Entry :=
  ⟨"none", " ", "tmpfs"⟩

/-- Blank and missing options are in nobody's way. -/
theorem readTable_share_scratch :
    (∀ m ∈ [(share, "rw,user=a b"), (scratch, "")], Proper m.1) ∧
      (∀ m ∈ [(share, "rw,user=a b"), (scratch, "")], Legible m.1) ∧
      readTable (written [(share, "rw,user=a b"), (scratch, "")]) = [share, scratch] := by
  have hproper : ∀ m ∈ [(share, "rw,user=a b"), (scratch, "")], Proper m.1 := by decide
  have hlegible : ∀ m ∈ [(share, "rw,user=a b"), (scratch, "")], Legible m.1 := by decide
  exact ⟨hproper, hlegible, (readTable_written_iff hproper).mpr hlegible⟩

/-- A disk whose mount point has a no-break space in its name. -/
def wide : Entry :=
  ⟨"/dev/sda", "/mnt/a\u00a0b", "ext4"⟩

/-- The table has another mount in place of that of the disk, and nothing is mounted on its mount
point. -/
theorem wide_misread :
    Proper wide ∧ readTable (written [(wide, "rw")]) = [⟨"/dev/sda", "/mnt/a", "b"⟩] ∧
      readTable (written [(wide, "rw")]) ≠ [wide] ∧
      isMountPoint (readTable (written [(wide, "rw")])) wide.target = false := by
  have hread : readTable (written [(wide, "rw")]) = [⟨"/dev/sda", "/mnt/a", "b"⟩] := by
    decide +kernel
  rw [hread]
  exact ⟨by decide, rfl, by decide, by decide⟩

end VolumePlugin.Mounts
