import VolumePlugin.Json.Reader
import VolumePlugin.Json.Writer

/-! # Writing and reading JSON

What is written for a value is read back as that value, wherever it stands in a text. Texts are
written and read character by character, numbers as far as their digits go, and arrays and objects
part by part; each part of the reader is shown to stop where the writer did. Left out are the values
whose text says something else: halves of surrogate pairs, and numbers that are not whole. -/

namespace VolumePlugin.Json

/-- If each part is read from what is made of it, all parts are. -/
theorem mapM_map_eq_some {α β γ : Type} {make : α → β} {read : β → Option γ} {part : α → γ}
    {l : List α} (h : ∀ a ∈ l, read (make a) = some (part a)) :
    (l.map make).mapM read = some (l.map part) := by
  induction l with
  | nil => rfl
  | cons a as ih =>
      rw [List.forall_mem_cons] at h
      rw [List.map_cons, List.mapM_cons, h.1, ih h.2]
      rfl

/-! ## Texts -/

theorem hexQuad?_control {n : Nat} (h : n < 0x20) :
    hexQuad? '0' '0' (Nat.digitChar (n / 16)) (Nat.digitChar (n % 16)) = some n := by
  have hall : ∀ n < 0x20,
      hexQuad? '0' '0' (Nat.digitChar (n / 16)) (Nat.digitChar (n % 16)) = some n := by decide
  exact hall n h

theorem readUnits_writeChar (c : Char) (rest : List Char) :
    readUnits (writeChar c ++ rest) = (readUnits rest).map fun p => (c.toNat :: p.1, p.2) := by
  have hshort : ∀ e : Char, e ≠ 'u' → shortEscape? e = some c →
      readUnits ('\\' :: e :: rest) = (readUnits rest).map fun p => (c.toNat :: p.1, p.2) := by
    intro e hu he
    rw [readUnits]
    · simp only [he]
      cases readUnits rest <;> rfl
    · intro a b c d r heq
      exact fun _ => hu heq
  unfold writeChar
  split
  -- One case for each short escape, then the controls without one, then what is written as it is.
  · next h => exact hshort '"' (by decide) (by rw [h]; rfl)
  split
  · next h => exact hshort '\\' (by decide) (by rw [h]; rfl)
  split
  · next h => exact hshort 'n' (by decide) (by rw [h]; rfl)
  split
  · next h => exact hshort 'r' (by decide) (by rw [h]; rfl)
  split
  · next h => exact hshort 't' (by decide) (by rw [h]; rfl)
  split
  · next h =>
    refine hshort 'b' (by decide) ?_
    rw [← Char.ofNat_toNat c, h]; rfl
  split
  · next h =>
    refine hshort 'f' (by decide) ?_
    rw [← Char.ofNat_toNat c, h]; rfl
  split
  · next h =>
    simp only [List.cons_append, List.nil_append]
    rw [readUnits, hexQuad?_control h]
    cases readUnits rest <;> rfl
  · next hquote hslash _ _ _ _ _ hcontrol =>
    rw [List.singleton_append, readUnits, if_neg (by simpa [hslash] using hcontrol)]
    · cases readUnits rest <;> rfl
    · exact hquote
    · exact fun _ _ _ _ _ h _ => hslash h
    · exact fun _ _ h _ => hslash h

theorem readUnits_written (cs rest : List Char) :
    readUnits (cs.flatMap writeChar ++ '"' :: rest) = some (cs.map Char.toNat, rest) := by
  induction cs with
  | nil => simp [readUnits]
  | cons c cs ih =>
      rw [List.flatMap_cons, List.append_assoc, readUnits_writeChar, ih]
      rfl

/-- No character is half of a surrogate pair. -/
theorem joinUnits_toNat (cs : List Char) : joinUnits (cs.map Char.toNat) = some cs := by
  induction cs with
  | nil => rfl
  | cons c cs ih =>
      have hvalid : c.toNat < 0xD800 ∨ 0xDFFF < c.toNat := by
        rcases c.valid with h | h
        · exact .inl h
        · exact .inr h.1
      rw [List.map_cons, joinUnits.eq_def]
      dsimp only
      rw [if_neg (by omega), if_neg (by omega), ih, Char.ofNat_toNat]
      rfl

theorem readText_written (s : String) (rest : List Char) :
    readText (s.toList.flatMap writeChar ++ '"' :: rest) = some (some s, rest) := by
  simp [readText, readUnits_written, joinUnits_toNat]

/-! ## Numbers -/

/-- Whether a text goes on in a way that ends every number before it. -/
def Ends (rest : List Char) : Prop :=
  ∀ c ∈ rest.head?, c.isDigit = false ∧ c ≠ '.' ∧ c ≠ 'e' ∧ c ≠ 'E'

theorem ends_nil : Ends [] := nofun

theorem spanDigits_append {digits rest : List Char} (hdigits : ∀ c ∈ digits, c.isDigit)
    (hrest : Ends rest) : spanDigits (digits ++ rest) = (digits, rest) := by
  have hhead : rest.takeWhile Char.isDigit = [] ∧ rest.dropWhile Char.isDigit = rest := by
    cases rest with
    | nil => exact ⟨rfl, rfl⟩
    | cons c cs => simp [(hrest c rfl).1]
  unfold spanDigits
  rw [List.takeWhile_append_of_pos hdigits, List.dropWhile_append_of_pos hdigits, hhead.1, hhead.2,
    List.append_nil]

theorem readFraction_of_ends {rest : List Char} (h : Ends rest) :
    readFraction rest = some ([], rest) := by
  unfold readFraction
  split
  · exact absurd rfl (h _ rfl).2.1
  · rfl

theorem readExponent_of_ends {rest : List Char} (h : Ends rest) :
    readExponent rest = some ([], rest) := by
  cases rest with
  | nil => rfl
  | cons c cs =>
      obtain ⟨-, -, he, hE⟩ := h c rfl
      simp [readExponent, he, hE]

theorem digitsValue_toDigits (n : Nat) : digitsValue (Nat.toDigits 10 n) = n :=
  Nat.ofDigitChars_ten_toDigits

/-- Only zero is written with a zero in front. -/
theorem eq_zero_of_head?_toDigits {n : Nat} (h : (Nat.toDigits 10 n).head? = some '0') : n = 0 := by
  induction n using Nat.strongRecOn with
  | ind n ih =>
      by_cases hn : n < 10
      · rw [Nat.toDigits_of_lt_base hn] at h
        simpa using h
      · rw [Nat.toDigits_of_base_le (by decide) (Nat.le_of_not_lt hn)] at h
        cases hfront : Nat.toDigits 10 (n / 10) with
        | nil => exact absurd hfront Nat.toDigits_ne_nil
        | cons c cs =>
            rw [hfront] at h
            have hzero := ih (n / 10) (by omega) (hfront ▸ h)
            omega

theorem isDigit_of_mem_toDigits {n : Nat} {c : Char} (h : c ∈ Nat.toDigits 10 n) : c.isDigit :=
  Nat.isDigit_of_mem_toDigits (by decide) (by decide) h

theorem exists_toDigits (n : Nat) : ∃ c cs, Nat.toDigits 10 n = c :: cs ∧ c.isDigit := by
  cases hdigits : Nat.toDigits 10 n with
  | nil => exact absurd hdigits Nat.toDigits_ne_nil
  | cons c cs =>
      have hmem : c ∈ Nat.toDigits 10 n := by
        rw [hdigits]
        exact List.mem_cons_self
      exact ⟨c, cs, rfl, isDigit_of_mem_toDigits hmem⟩

theorem spanDigits_toDigits (n : Nat) {rest : List Char} (hrest : Ends rest) :
    spanDigits (Nat.toDigits 10 n ++ rest) = (Nat.toDigits 10 n, rest) :=
  spanDigits_append (fun _ => isDigit_of_mem_toDigits) hrest

theorem toDigits_proper (n : Nat) :
    ¬ (Nat.toDigits 10 n = [] ∨
      ((Nat.toDigits 10 n).head? = some '0' ∧ Nat.toDigits 10 n ≠ ['0'])) := by
  rintro (hnone | ⟨hzero, hmore⟩)
  · exact Nat.toDigits_ne_nil hnone
  · obtain rfl := eq_zero_of_head?_toDigits hzero
    exact hmore rfl

theorem readNumber_negative {n : Nat} (hn : n ≠ 0) {rest : List Char} (hrest : Ends rest) :
    readNumber ('-' :: (Nat.toDigits 10 n ++ rest)) = some (.integer (-n), rest) := by
  simp only [readNumber, spanDigits_toDigits n hrest, if_neg (toDigits_proper n)]
  simp [readFraction_of_ends hrest, readExponent_of_ends hrest, digitsValue_toDigits, hn]

theorem readNumber_nat (n : Nat) {rest : List Char} (hrest : Ends rest) :
    readNumber (Nat.toDigits 10 n ++ rest) = some (.integer n, rest) := by
  have hunsigned : ∀ cs, Nat.toDigits 10 n ++ rest = '-' :: cs → False := by
    intro cs h
    obtain ⟨c, ds, hdigits, hdigit⟩ := exists_toDigits n
    rw [hdigits] at h
    obtain ⟨rfl, -⟩ := List.cons.inj h
    exact absurd hdigit (by decide)
  simp only [readNumber, spanDigits_toDigits n hrest, if_neg (toDigits_proper n)]
  simp [readFraction_of_ends hrest, readExponent_of_ends hrest, digitsValue_toDigits]

theorem toList_toString_ofNat (n : Nat) :
    (toString (Int.ofNat n)).toList = Nat.toDigits 10 n :=
  Nat.toList_repr

theorem toList_toString_negSucc (n : Nat) :
    (toString (Int.negSucc n)).toList = '-' :: Nat.toDigits 10 (n + 1) := by
  change ("-" ++ (n + 1).repr).toList = _
  rw [String.toList_append, Nat.toList_repr]
  rfl

theorem readNumber_written (n : Int) {rest : List Char} (hrest : Ends rest) :
    readNumber ((toString n).toList ++ rest) = some (.integer n, rest) := by
  cases n with
  | ofNat n =>
      rw [toList_toString_ofNat]
      exact readNumber_nat n hrest
  | negSucc n =>
      rw [toList_toString_negSucc]
      exact readNumber_negative (Nat.succ_ne_zero n) hrest

/-! ## Values -/

/-- A value all texts in which are texts, and all numbers in which are whole numbers. -/
inductive Plain : Json → Prop where
  | null : Plain .null
  | bool (b : Bool) : Plain (.bool b)
  | integer (n : Int) : Plain (.integer n)
  | text (s : String) : Plain (.text s)
  | array {elements : List Json} (h : ∀ v ∈ elements, Plain v) : Plain (.array elements)
  | object {members : List (String × Json)} (h : ∀ m ∈ members, Plain m.2) :
      Plain (.object members)

/-- A value is read back from the text that is written for it, whatever follows that text and ends a
number. Twice the length of the text is fuel enough. -/
def ReadsBack (v : Json) : Prop :=
  ∀ (fuel : Nat) (rest : List Char), Ends rest → 2 * (write v).length ≤ fuel + 1 →
    readValue (fuel + 1) (write v ++ rest) = some (v, rest)

theorem skipGap_cons {c : Char} (h : isGap c = false) (cs : List Char) :
    skipGap (c :: cs) = c :: cs := by
  simp [skipGap, h]

/-! ### Numbers -/

section Numeric

variable {c : Char} (hc : c.isDigit ∨ c = '-')

include hc

theorem ne_of_numeric {d : Char} (hd : d.isDigit = false) (hminus : d ≠ '-') : c ≠ d := by
  rintro rfl
  rcases hc with hdigit | rfl
  · rw [hd] at hdigit
    cases hdigit
  · exact hminus rfl

theorem isGap_of_numeric : isGap c = false := by
  have hne := @ne_of_numeric c hc
  simp [isGap, @hne ' ', @hne '\t', @hne '\n', @hne '\r']

theorem readValue_of_numeric (fuel : Nat) (cs : List Char) :
    readValue (fuel + 1) (c :: cs) = readNumber (c :: cs) := by
  have hne := @ne_of_numeric c hc
  have hn : c ≠ 'n' := hne (by decide) (by decide)
  have ht : c ≠ 't' := hne (by decide) (by decide)
  have hf : c ≠ 'f' := hne (by decide) (by decide)
  have hquote : c ≠ '"' := hne (by decide) (by decide)
  have hbracket : c ≠ '[' := hne (by decide) (by decide)
  have hbrace : c ≠ Char.ofNat 123 := hne (by decide) (by decide)
  rw [readValue, skipGap_cons (isGap_of_numeric hc)]
  simp [hn, ht, hf, hbrace]

end Numeric

/-- A number is written with a digit or a minus sign in front. -/
theorem exists_numeric (n : Int) :
    ∃ c cs, (toString n).toList = c :: cs ∧ (c.isDigit ∨ c = '-') := by
  cases n with
  | ofNat n =>
      obtain ⟨c, cs, hdigits, hdigit⟩ := exists_toDigits n
      exact ⟨c, cs, (toList_toString_ofNat n).trans hdigits, .inl hdigit⟩
  | negSucc n => exact ⟨'-', _, toList_toString_negSucc n, .inr rfl⟩

theorem ends_writeElements (elements : List Json) (rest : List Char) :
    Ends (writeElements elements ++ rest) := by
  cases elements <;> (rintro _ ⟨⟩; decide)

theorem ends_writeMembers (members : List (String × Json)) (rest : List Char) :
    Ends (writeMembers members ++ rest) := by
  cases members <;> (rintro _ ⟨⟩; decide)

/-! ### Arrays -/

section Elements

variable {fuel : Nat} {cs rest rest' : List Char} {v : Json} {vs : List Json}

theorem readElements_last (h : readValue fuel cs = some (v, ']' :: rest)) :
    readElements (fuel + 1) cs = some ([v], rest) := by
  simp [readElements, h, skipGap, isGap]

theorem readElements_more (h : readValue fuel cs = some (v, ',' :: rest))
    (hmore : readElements fuel rest = some (vs, rest')) :
    readElements (fuel + 1) cs = some (v :: vs, rest') := by
  simp [readElements, h, skipGap, isGap, hmore]

end Elements

/-- Elements are read as they were written. Each takes a step for itself and what its value takes,
and the comma or bracket behind it pays for the step. -/
theorem readElements_written {elements : List Json} (h : ∀ v ∈ elements, ReadsBack v) {v : Json}
    (hv : ReadsBack v) {fuel : Nat} (rest : List Char)
    (hfuel : 2 * ((write v).length + (writeElements elements).length) ≤ fuel) :
    readElements fuel (write v ++ (writeElements elements ++ rest)) =
      some (v :: elements, rest) := by
  have hafter := ends_writeElements elements rest
  induction elements generalizing v fuel with
  | nil =>
      rw [writeElements, List.length_singleton] at hfuel
      obtain ⟨fuel, rfl⟩ : ∃ k, fuel = k + 2 := ⟨fuel - 2, by omega⟩
      exact readElements_last (hv fuel _ hafter (by omega))
  | cons u us ih =>
      rw [List.forall_mem_cons] at h
      simp only [writeElements, List.length_append, List.length_cons, List.cons_append] at hfuel
      obtain ⟨fuel, rfl⟩ : ∃ k, fuel = k + 2 := ⟨fuel - 2, by omega⟩
      have hfirst := hv fuel _ hafter (by omega)
      rw [writeElements, List.cons_append, List.cons_append, List.append_assoc] at hfirst ⊢
      exact readElements_more hfirst (ih h.2 h.1 (by omega) (ends_writeElements us rest))

/-! ### Objects -/

section Members

variable {fuel : Nat} {cs rest rest' : List Char} {name : String} {v : Json}
  {ms : List (Option String × Json)}

theorem writeText_append (s : String) (rest : List Char) :
    writeText s ++ rest = '"' :: (s.toList.flatMap writeChar ++ '"' :: rest) := by
  simp [writeText]

theorem readMembers_last (h : readValue fuel cs = some (v, Char.ofNat 125 :: rest)) :
    readMembers (fuel + 1) (writeText name ++ ':' :: cs) = some ([(some name, v)], rest) := by
  simp [readMembers, writeText_append, readText_written, h, skipGap, isGap]

theorem readMembers_more (h : readValue fuel cs = some (v, ',' :: rest))
    (hmore : readMembers fuel rest = some (ms, rest')) :
    readMembers (fuel + 1) (writeText name ++ ':' :: cs) = some ((some name, v) :: ms, rest') := by
  simp [readMembers, writeText_append, readText_written, h, skipGap, isGap, hmore]

end Members

/-- The members of an object as they are read before it is known whether their names are texts. -/
def named (members : List (String × Json)) : List (Option String × Json) :=
  members.map fun m => (some m.1, m.2)

theorem ofMembers_named (members : List (String × Json)) :
    ofMembers (named members) = .object members := by
  have hnames : (named members).mapM (fun m => m.1.map fun name => (name, m.2)) =
      some (members.map id) :=
    mapM_map_eq_some fun _ _ => rfl
  rw [ofMembers, hnames, List.map_id]

theorem readMembers_written {members : List (String × Json)} (h : ∀ m ∈ members, ReadsBack m.2)
    {name : String} {v : Json} (hv : ReadsBack v) {fuel : Nat} (rest : List Char)
    (hfuel : 2 * ((write v).length + (writeMembers members).length) ≤ fuel) :
    readMembers fuel (writeText name ++ ':' :: (write v ++ (writeMembers members ++ rest))) =
      some (named ((name, v) :: members), rest) := by
  have hafter := ends_writeMembers members rest
  induction members generalizing name v fuel with
  | nil =>
      rw [writeMembers, List.length_singleton] at hfuel
      obtain ⟨fuel, rfl⟩ : ∃ k, fuel = k + 2 := ⟨fuel - 2, by omega⟩
      exact readMembers_last (hv fuel _ hafter (by omega))
  | cons m ms ih =>
      rw [List.forall_mem_cons] at h
      simp only [writeMembers, List.length_append, List.length_cons, List.cons_append] at hfuel
      obtain ⟨fuel, rfl⟩ : ∃ k, fuel = k + 2 := ⟨fuel - 2, by omega⟩
      have hfirst := hv fuel _ hafter (by omega)
      simp only [writeMembers, List.cons_append, List.append_assoc] at hfirst ⊢
      exact readMembers_more hfirst (ih h.2 h.1 (by omega) (ends_writeMembers ms rest))

/-! ### Values in values -/

/-- The text of a value begins with a character that is no blank and does not end an array, so an
array with elements is not taken for an empty one. -/
theorem exists_write_eq_cons {v : Json} (h : Plain v) :
    ∃ c cs, write v = c :: cs ∧ isGap c = false ∧ c ≠ ']' := by
  cases h with
  | null => exact ⟨_, _, by rw [write], by decide, by decide⟩
  | bool b => cases b <;> exact ⟨_, _, by rw [write], by decide, by decide⟩
  | integer n =>
      obtain ⟨c, cs, hwrite, hc⟩ := exists_numeric n
      exact ⟨c, cs, by rw [write, hwrite], isGap_of_numeric hc,
        ne_of_numeric hc (by decide) (by decide)⟩
  | text s => exact ⟨_, _, by rw [write, writeText, List.cons_append], by decide, by decide⟩
  | @array elements _ =>
      cases elements with
      | nil => exact ⟨_, _, by rw [write], by decide, by decide⟩
      | cons v vs => exact ⟨_, _, by rw [write, List.cons_append], by decide, by decide⟩
  | @object members _ =>
      cases members with
      | nil => exact ⟨_, _, by rw [write], by decide, by decide⟩
      | cons m ms =>
          exact ⟨_, _, by rw [write, List.cons_append, List.cons_append], by decide, by decide⟩

theorem readsBack_array {elements : List Json} (hplain : ∀ v ∈ elements, Plain v)
    (h : ∀ v ∈ elements, ReadsBack v) : ReadsBack (.array elements) := by
  intro fuel rest _ hfuel
  cases elements with
  | nil => simp [write, readValue, skipGap, isGap]
  | cons v vs =>
      rw [List.forall_mem_cons] at h hplain
      obtain ⟨c, cs, hwrite, hgap, hbracket⟩ := exists_write_eq_cons hplain.1
      rw [write] at hfuel ⊢
      rw [List.cons_append, List.length_cons, List.length_append] at hfuel
      have helements : readElements fuel (write v ++ (writeElements vs ++ rest)) =
          some (v :: vs, rest) :=
        readElements_written h.2 h.1 rest (by omega)
      rw [hwrite, List.cons_append] at helements
      rw [List.cons_append, List.cons_append, List.append_assoc, readValue,
        skipGap_cons (by decide)]
      simp [hwrite, skipGap_cons hgap, hbracket, helements]

theorem readsBack_object {members : List (String × Json)}
    (h : ∀ m ∈ members, ReadsBack m.2) : ReadsBack (.object members) := by
  intro fuel rest _ hfuel
  cases members with
  | nil => simp [write, readValue, skipGap, isGap]
  | cons m ms =>
      rw [List.forall_mem_cons] at h
      simp only [write, List.cons_append, List.length_cons, List.length_append] at hfuel
      have hmembers : readMembers fuel
          (writeText m.1 ++ ':' :: (write m.2 ++ (writeMembers ms ++ rest))) =
          some (named (m :: ms), rest) :=
        readMembers_written h.2 h.1 rest (by omega)
      simp only [write, List.cons_append, List.append_assoc]
      rw [writeText_append] at hmembers ⊢
      rw [readValue, skipGap_cons (by decide)]
      simp [skipGap_cons, isGap, hmembers, ofMembers_named]

theorem Plain.readsBack {v : Json} (h : Plain v) : ReadsBack v := by
  induction h with
  | null => exact fun fuel rest _ _ => by simp [write, readValue, skipGap, isGap]
  | bool b => exact fun fuel rest _ _ => by cases b <;> simp [write, readValue, skipGap, isGap]
  | integer n =>
      intro fuel rest hrest _
      obtain ⟨c, cs, hwrite, hc⟩ := exists_numeric n
      have hnumber := readNumber_written n hrest
      rw [hwrite, List.cons_append] at hnumber
      rw [write, hwrite, List.cons_append, readValue_of_numeric hc, hnumber]
  | text s =>
      intro fuel rest _ _
      rw [write, writeText_append]
      simp [readValue, skipGap, isGap, readText_written]
  | array helements ih => exact readsBack_array helements ih
  | object hmembers ih => exact readsBack_object ih

/-- A plain value is what is read from its text. -/
theorem parse_render {v : Json} (h : Plain v) : parse (render v) = some v := by
  have hread := h.readsBack (2 * (write v).length + 1) [] ends_nil (by omega)
  rw [List.append_nil] at hread
  simp [parse, render, hread, skipGap]

end VolumePlugin.Json
