import VolumePlugin.Text.Unsigned

/-! Reading the numbers that are written in decimal digits, and which texts can be read. -/

namespace VolumePlugin.Text

/-- The digits are those that come first in the order of characters. -/
theorem digit?_of_isDigit {c : Char} (h : c.isDigit) : digit? c = some (c.toNat - '0'.toNat) := by
  have hrange : '0' ≤ c ∧ c ≤ '9' := by
    simpa [Char.isDigit, Char.le_def] using h
  exact if_pos hrange

theorem le_ofDigitChars (cs : List Char) (value : Nat) : value ≤ Nat.ofDigitChars 10 cs value := by
  induction cs generalizing value with
  | nil => simp
  | cons c cs ih =>
      have := ih (10 * value + (c.toNat - '0'.toNat))
      rw [Nat.ofDigitChars_cons]
      omega

/-- Values only grow while digits are read, so a value that stays below the bound was below it all
along. -/
theorem readDigits_eq {bound : Nat} (cs : List Char) (hcs : ∀ c ∈ cs, c.isDigit) (value : Nat)
    (h : Nat.ofDigitChars 10 cs value < bound) :
    readDigits bound value cs = .ok (Nat.ofDigitChars 10 cs value) := by
  induction cs generalizing value with
  | nil => simp [readDigits]
  | cons c cs ih =>
      rw [Nat.ofDigitChars_cons] at h ⊢
      have hfirst : 10 * value + (c.toNat - '0'.toNat) < bound :=
        Nat.lt_of_le_of_lt (le_ofDigitChars cs _) h
      simp only [readDigits, digit?_of_isDigit (hcs c (by simp)), if_pos hfirst]
      exact ih (fun d hd => hcs d (by simp [hd])) _ h

theorem digit?_eq_some {c : Char} {d : Nat} (h : digit? c = some d) :
    c.isDigit ∧ d = c.toNat - '0'.toNat := by
  unfold digit? at h
  split at h
  · next hrange =>
      have hdigit : c.isDigit := by
        simpa [Char.isDigit, Char.le_def] using hrange
      exact ⟨hdigit, (Option.some.inj h).symm⟩
  · cases h

/-- What is read are digits to the end, and their value. -/
theorem eq_of_readDigits {bound n : Nat} (cs : List Char) (value : Nat) (hvalue : value < bound)
    (h : readDigits bound value cs = .ok n) :
    (∀ c ∈ cs, c.isDigit) ∧ Nat.ofDigitChars 10 cs value = n ∧ n < bound := by
  induction cs generalizing value with
  | nil =>
      obtain rfl := Except.ok.inj h
      simpa using hvalue
  | cons c cs ih =>
      rw [readDigits] at h
      cases hdigit : digit? c with
      | none => simp [hdigit] at h
      | some d =>
          obtain ⟨hc, rfl⟩ := digit?_eq_some hdigit
          simp only [hdigit] at h
          split at h
          · next hnext =>
              -- What was read so far stays below the bound, or else nothing would be read on.
              obtain ⟨hcs, hn, hbound⟩ := ih _ hnext h
              refine ⟨List.forall_mem_cons.mpr ⟨hc, hcs⟩, ?_, hbound⟩
              rw [Nat.ofDigitChars_cons, hn]
          · cases h

/-- The texts of a number: at least one digit, which may be zeros at first, and before the digits a
plus sign or nothing. -/
inductive Numeral : List Char → Nat → Prop where
  | unsigned {digits : List Char} (hsome : digits ≠ []) (hdigits : ∀ c ∈ digits, c.isDigit) :
      Numeral digits (Nat.ofDigitChars 10 digits 0)
  | signed {digits : List Char} (hsome : digits ≠ []) (hdigits : ∀ c ∈ digits, c.isDigit) :
      Numeral ('+' :: digits) (Nat.ofDigitChars 10 digits 0)

theorem Numeral.hyphen_not_mem {cs : List Char} {n : Nat} (h : Numeral cs n) : '-' ∉ cs := by
  cases h with
  | unsigned _ hdigits => exact fun hmem => absurd (hdigits '-' hmem) (by decide)
  | signed _ hdigits =>
      intro hmem
      rcases List.mem_cons.mp hmem with hplus | hmem
      · exact absurd hplus (by decide)
      · exact absurd (hdigits '-' hmem) (by decide)

theorem readUnsigned_of_ne_plus (bound : Nat) {c : Char} (hc : c ≠ '+') (cs : List Char) :
    readUnsigned bound (c :: cs) = readDigits bound 0 (c :: cs) := by
  cases cs <;> simp [readUnsigned, hc]

theorem readUnsigned_of_digits (bound : Nat) {digits : List Char} (hsome : digits ≠ [])
    (hdigits : ∀ c ∈ digits, c.isDigit) :
    readUnsigned bound digits = readDigits bound 0 digits := by
  cases digits with
  | nil => exact absurd rfl hsome
  | cons c cs =>
      have hplus : c ≠ '+' := by
        rintro rfl
        exact absurd (hdigits '+' (by simp)) (by decide)
      exact readUnsigned_of_ne_plus bound hplus cs

theorem readUnsigned_of_plus (bound : Nat) {digits : List Char} (hsome : digits ≠ []) :
    readUnsigned bound ('+' :: digits) = readDigits bound 0 digits := by
  cases digits with
  | nil => exact absurd rfl hsome
  | cons c cs => rfl

/-- Whatever is read, it is read digit by digit, perhaps after a plus sign. -/
theorem readDigits_of_readUnsigned {bound n : Nat} {cs : List Char}
    (h : readUnsigned bound cs = .ok n) :
    ∃ digits ≠ [], readDigits bound 0 digits = .ok n ∧ (cs = digits ∨ cs = '+' :: digits) := by
  cases cs with
  | nil => cases h
  | cons c cs =>
      by_cases hc : c = '+'
      · subst hc
        cases cs with
        | nil => cases h
        | cons d cs => exact ⟨d :: cs, List.cons_ne_nil d cs, h, .inr rfl⟩
      · rw [readUnsigned_of_ne_plus bound hc] at h
        exact ⟨c :: cs, List.cons_ne_nil c cs, h, .inl rfl⟩

/-- The texts that are read are the numerals of the numbers below the bound. -/
theorem readUnsigned_eq_ok_iff {bound n : Nat} (hbound : 0 < bound) {cs : List Char} :
    readUnsigned bound cs = .ok n ↔ Numeral cs n ∧ n < bound := by
  constructor
  · intro h
    obtain ⟨digits, hsome, hread, hcs⟩ := readDigits_of_readUnsigned h
    obtain ⟨hdigits, rfl, hn⟩ := eq_of_readDigits digits 0 hbound hread
    rcases hcs with rfl | rfl
    · exact ⟨.unsigned hsome hdigits, hn⟩
    · exact ⟨.signed hsome hdigits, hn⟩
  · rintro ⟨hnumeral, hn⟩
    cases hnumeral with
    | unsigned hsome hdigits =>
        rw [readUnsigned_of_digits bound hsome hdigits, readDigits_eq _ hdigits 0 hn]
    | signed hsome hdigits =>
        rw [readUnsigned_of_plus bound hsome, readDigits_eq _ hdigits 0 hn]

theorem isDigit_of_mem_toString {n : Nat} {c : Char} (h : c ∈ (toString n).toList) :
    c.isDigit := by
  rw [Nat.toString_eq_ofList_toDigits, String.toList_ofList] at h
  exact Nat.isDigit_of_mem_toDigits (by decide) (by decide) h

theorem readUnsigned_toString {bound n : Nat} (h : n < bound) :
    readUnsigned bound (toString n).toList = .ok n := by
  have hdigits : ∀ c ∈ (toString n).toList, c.isDigit := fun c => isDigit_of_mem_toString
  have hvalue : Nat.ofDigitChars 10 (toString n).toList 0 = n := by
    rw [Nat.toString_eq_ofList_toDigits, String.toList_ofList, Nat.ofDigitChars_ten_toDigits]
  have hsome : (toString n).toList ≠ [] := by
    rw [Nat.toString_eq_ofList_toDigits, String.toList_ofList]
    exact Nat.toDigits_ne_nil
  rw [readUnsigned_of_digits bound hsome hdigits, readDigits_eq _ hdigits 0 (by omega), hvalue]

theorem toString_ne_empty (n : Nat) : toString n ≠ "" := by
  intro hempty
  have hread : readUnsigned (n + 1) (toString n).toList = .ok n :=
    readUnsigned_toString (Nat.lt_succ_self n)
  simp [hempty, readUnsigned] at hread

/-- What is written for two numbers can be read again, whatever they are. -/
theorem toString_inj {a b : Nat} (h : toString a = toString b) : a = b := by
  have ha : readUnsigned (max a b + 1) (toString a).toList = .ok a :=
    readUnsigned_toString (by omega)
  have hb : readUnsigned (max a b + 1) (toString b).toList = .ok b :=
    readUnsigned_toString (by omega)
  rw [h, hb] at ha
  exact (Except.ok.inj ha).symm

end VolumePlugin.Text
