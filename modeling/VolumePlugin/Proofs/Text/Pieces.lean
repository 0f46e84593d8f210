import VolumePlugin.Text.Blank
import VolumePlugin.Text.Pieces

/-! Cutting texts at separators, in the terms of the library. -/

namespace VolumePlugin.Text

/-! ## Cutting at entries of a kind -/

/-- Nothing is cut before the first entry at which a list is cut. -/
theorem splitOnP_append {α : Type} {p : α → Bool} {plain : List α} (h : ∀ x ∈ plain, p x = false)
    (rest : List α) :
    (plain ++ rest).splitOnP p = (rest.splitOnP p).modifyHead (plain ++ ·) := by
  obtain ⟨w, ws, hws⟩ := List.exists_cons_of_ne_nil (List.splitOnP_ne_nil p rest)
  induction plain with
  | nil => simp [hws]
  | cons x xs ih =>
      rw [List.forall_mem_cons] at h
      rw [List.cons_append, List.splitOnP_cons_eq_if_modifyHead, ih h.2, hws]
      simp [h.1]

theorem forall_of_mem_splitOnP {α : Type} {p : α → Bool} {entries part : List α}
    (h : part ∈ entries.splitOnP p) : ∀ x ∈ part, p x = false := by
  induction entries generalizing part with
  | nil =>
      obtain rfl : part = [] := by simpa using h
      simp
  | cons x xs ih =>
      obtain ⟨w, ws, hws⟩ := List.exists_cons_of_ne_nil (List.splitOnP_ne_nil p xs)
      rw [List.splitOnP_cons_eq_if_modifyHead, hws] at h
      rw [hws] at ih
      cases hx : p x with
      | true =>
          rw [hx, if_pos rfl] at h
          rcases List.mem_cons.mp h with rfl | h
          · simp
          · exact ih h
      | false =>
          rw [hx] at h
          rcases List.mem_cons.mp h with rfl | h
          · simpa [hx] using ih List.mem_cons_self
          · exact ih (List.mem_cons_of_mem w h)

/-! ## Pieces -/

theorem pieces_eq_splitOn (separator : Char) (text : List Char) :
    pieces separator text = text.splitOn separator := by
  induction text with
  | nil => rfl
  | cons c cs ih =>
      rw [pieces, List.splitOn_cons_eq_if_modifyHead, ih]
      by_cases hc : c = separator
      · simp [hc]
      · have hne : cs.splitOn separator ≠ [] := List.splitOn_ne_nil separator cs
        cases hrest : cs.splitOn separator with
        | nil => exact absurd hrest hne
        | cons p ps => simp [hc]

theorem pieces_of_not_mem {separator : Char} {text : List Char} (h : separator ∉ text) :
    pieces separator text = [text] := by
  rw [pieces_eq_splitOn, List.splitOn_eq_singleton h]

theorem pieces_append {separator : Char} {before : List Char} (h : separator ∉ before)
    (after : List Char) :
    pieces separator (before ++ separator :: after) = before :: pieces separator after := by
  rw [pieces_eq_splitOn, pieces_eq_splitOn, List.splitOn_append_cons_self_of_not_mem h]

/-- Pieces that hold no separator are found again where they were joined. -/
theorem pieces_intercalate {separator : Char} {parts : List (List Char)} (hne : parts ≠ [])
    (h : ∀ part ∈ parts, separator ∉ part) :
    pieces separator ([separator].intercalate parts) = parts := by
  rw [pieces_eq_splitOn, List.splitOn_intercalate separator h hne]

theorem not_mem_of_mem_pieces {separator : Char} {text part : List Char}
    (h : part ∈ pieces separator text) : separator ∉ part := by
  rw [pieces_eq_splitOn, List.splitOn] at h
  intro hmem
  simpa using forall_of_mem_splitOnP h separator hmem

/-! ## Lines -/

/-- A line that ends is not cut anywhere else. A carriage return belongs to the ending only if it
stands right before it. -/
theorem lines_append_of_getLast? {line : List Char} (hnewline : '\n' ∉ line)
    (hlast : line.getLast? ≠ some '\r') (rest : List Char) :
    lines (line ++ '\n' :: rest) = line :: lines rest := by
  induction line with
  | nil => simp [lines]
  | cons c cs ih =>
      rw [List.mem_cons, not_or] at hnewline
      have hrest : lines (cs ++ '\n' :: rest) = cs :: lines rest := by
        apply ih hnewline.2
        cases cs with
        | nil => simp
        | cons d ds => simpa using hlast
      rw [List.cons_append, lines, if_neg (Ne.symm hnewline.1), hrest]
      -- The first two characters are no ending.
      intro more hc hmore
      cases cs with
      | nil => simp [hc] at hlast
      | cons d ds =>
          obtain ⟨rfl, -⟩ := List.cons.inj hmore
          exact hnewline.2 List.mem_cons_self

/-- What stands before the first end of a line is the first line. -/
theorem lines_append {line : List Char} (hnewline : '\n' ∉ line) (hreturn : '\r' ∉ line)
    (rest : List Char) : lines (line ++ '\n' :: rest) = line :: lines rest :=
  lines_append_of_getLast? hnewline (fun hlast => hreturn (List.mem_of_getLast? hlast)) rest

/-! ## Words -/

theorem words_eq_splitOnP (text : List Char) :
    words text = (text.splitOnP isBlank).filter (· ≠ []) := by
  induction text with
  | nil => rfl
  | cons c cs ih =>
      rw [List.splitOnP_cons_eq_if_modifyHead]
      cases cs with
      | nil => by_cases hc : isBlank c <;> simp [words, hc]
      | cons d ds =>
          rw [words, ih, List.splitOnP_cons_eq_if_modifyHead]
          obtain ⟨w, ws, hws⟩ := List.exists_cons_of_ne_nil (List.splitOnP_ne_nil isBlank ds)
          by_cases hc : isBlank c
          · simp [hc]
          · by_cases hd : isBlank d <;> simp [hc, hd, hws]

theorem words_append {c : Char} (hc : isBlank c) (before after : List Char) :
    words (before ++ c :: after) = words before ++ words after := by
  simp only [words_eq_splitOnP, List.splitOnP_append_cons before after hc, List.filter_append]

theorem words_intercalate {c : Char} (hc : isBlank c) (parts : List (List Char)) :
    words ([c].intercalate parts) = parts.flatMap words := by
  induction parts with
  | nil => rfl
  | cons p ps ih =>
      cases ps with
      | nil => simp
      | cons q qs =>
          rw [List.intercalate_cons_cons, List.append_assoc, List.singleton_append, words_append hc,
            ih, ← List.flatMap_cons]

/-! ## Starts -/

/-- A text starts with what can be taken off its start. -/
theorem dropStart?_isSome_iff {start text : List Char} :
    (dropStart? start text).isSome ↔ start <+: text := by
  induction start generalizing text with
  | nil => simp [dropStart?]
  | cons c start ih =>
      cases text with
      | nil => simp [dropStart?]
      | cons d text =>
          rw [dropStart?, List.cons_prefix_cons]
          split
          · next h => rw [ih, and_iff_right h]
          · next h => simp [h]

end VolumePlugin.Text
