import VolumePlugin.Text.Utf8

/-! UTF-8 that was encoded is decoded to the text that it was encoded from, and no bytes are decoded
to more characters than there are bytes. -/

namespace VolumePlugin.Text.Utf8

/-! ## Bytes -/

theorem toNat_ofNat {n : Nat} (h : n < 256) : (UInt8.ofNat n).toNat = n :=
  UInt8.toNat_ofNat_of_lt' h

/-- A byte of the form 10xxxxxx adds its six bits to the value. -/
theorem readTail_cons {low high count value n : Nat} (rest : List UInt8) (hn : n < 64)
    (hlow : low ≤ n + 128) (hhigh : n + 128 ≤ high) :
    readTail low high (count + 1) value (UInt8.ofNat (n + 128) :: rest) =
      ((readTail 0x80 0xBF count (64 * value + n) rest).1,
        (readTail 0x80 0xBF count (64 * value + n) rest).2 + 1) := by
  rw [readTail, toNat_ofNat (by omega), if_pos ⟨hlow, hhigh⟩, Nat.add_sub_cancel]

theorem readChar_lead {a low high count : Nat} (rest : List UInt8) (ha : 128 ≤ a ∧ a < 256)
    (hcount : continuation? a = some (low, high, count)) :
    readChar (UInt8.ofNat a) rest =
      ((readTail low high count (leadBits a count) rest).1.map Char.ofNat,
        (readTail low high count (leadBits a count) rest).2) := by
  rw [readChar, toNat_ofNat ha.2, if_neg (Nat.not_lt_of_le ha.1), hcount]

theorem continuation?_three {a : Nat} (h : 0xE0 ≤ a) (h' : a ≤ 0xEF) :
    continuation? a =
      some (if a = 0xE0 then 0xA0 else 0x80, if a = 0xED then 0x9F else 0xBF, 2) := by
  unfold continuation?
  grind

theorem continuation?_four {a : Nat} (h : 0xF0 ≤ a) (h' : a ≤ 0xF4) :
    continuation? a =
      some (if a = 0xF0 then 0x90 else 0x80, if a = 0xF4 then 0x8F else 0xBF, 3) := by
  unfold continuation?
  grind

theorem leadBits_one (n : Nat) : leadBits (n + 192) 1 = n :=
  Nat.add_sub_cancel n 192

theorem leadBits_two (n : Nat) : leadBits (n + 224) 2 = n :=
  Nat.add_sub_cancel n 224

theorem leadBits_three (n : Nat) : leadBits (n + 240) 3 = n :=
  Nat.add_sub_cancel n 240

/-! ## Characters -/

section Characters

variable {v : Nat} (rest : List UInt8)

theorem readChar_one (h : v ≤ 0x7F) :
    readChar (UInt8.ofNat v) rest = (some (Char.ofNat v), 0) := by
  rw [readChar, toNat_ofNat (by omega), if_pos (by omega)]

theorem readChar_two (h : 0x7F < v) (h' : v ≤ 0x7FF) :
    readChar (UInt8.ofNat (v / 64 % 32 + 192)) (UInt8.ofNat (v % 64 + 128) :: rest) =
      (some (Char.ofNat v), 1) := by
  have hcount : continuation? (v / 64 % 32 + 192) = some (0x80, 0xBF, 1) := if_pos (by omega)
  have hvalue : 64 * leadBits (v / 64 % 32 + 192) 1 + v % 64 = v := by
    rw [leadBits_one]
    omega
  rw [readChar_lead _ (by omega) hcount,
    readTail_cons rest (by omega) (by omega) (by omega), hvalue]
  rfl

theorem readChar_three (h : 0x7FF < v) (h' : v ≤ 0xFFFF) (hvalid : v < 0xD800 ∨ 0xDFFF < v) :
    readChar (UInt8.ofNat (v / 4096 % 16 + 224))
        (UInt8.ofNat (v / 64 % 64 + 128) :: UInt8.ofNat (v % 64 + 128) :: rest) =
      (some (Char.ofNat v), 2) := by
  have hcount := continuation?_three (a := v / 4096 % 16 + 224) (by omega) (by omega)
  have hvalue : 64 * (64 * leadBits (v / 4096 % 16 + 224) 2 + v / 64 % 64) + v % 64 = v := by
    rw [leadBits_two]
    omega
  rw [readChar_lead _ (by omega) hcount,
    readTail_cons _ (by omega) (by split <;> omega) (by split <;> omega),
    readTail_cons rest (by omega) (by omega) (by omega), hvalue]
  rfl

theorem readChar_four (h : 0xFFFF < v) (h' : v < 0x110000) :
    readChar (UInt8.ofNat (v / 262144 % 8 + 240))
        (UInt8.ofNat (v / 4096 % 64 + 128) :: UInt8.ofNat (v / 64 % 64 + 128) ::
          UInt8.ofNat (v % 64 + 128) :: rest) =
      (some (Char.ofNat v), 3) := by
  have hcount := continuation?_four (a := v / 262144 % 8 + 240) (by omega) (by omega)
  have hvalue : 64 * (64 * (64 * leadBits (v / 262144 % 8 + 240) 3 + v / 4096 % 64) +
      v / 64 % 64) + v % 64 = v := by
    rw [leadBits_three]
    omega
  rw [readChar_lead _ (by omega) hcount,
    readTail_cons _ (by omega) (by split <;> omega) (by split <;> omega),
    readTail_cons _ (by omega) (by omega) (by omega),
    readTail_cons rest (by omega) (by omega) (by omega), hvalue]
  rfl

end Characters

theorem readAll_of_readChar {a : UInt8} {more rest : List UInt8} {c : Char}
    (h : readChar a (more ++ rest) = (some c, more.length)) :
    readAll (a :: more ++ rest) = some c :: readAll rest := by
  rw [List.cons_append, readAll, h, List.drop_left]

theorem readAll_utf8EncodeChar (c : Char) (rest : List UInt8) :
    readAll (String.utf8EncodeChar c ++ rest) = some c :: readAll rest := by
  have hvalid : c.val.toNat < 0xD800 ∨ 0xDFFF < c.val.toNat ∧ c.val.toNat < 0x110000 := c.valid
  have hc : some (Char.ofNat c.val.toNat) = some c := congrArg some (Char.ofNat_toNat c)
  unfold String.utf8EncodeChar
  dsimp only
  split
  · next h₁ => exact readAll_of_readChar ((readChar_one _ h₁).trans (by rw [hc]; rfl))
  · next h₁ =>
    split
    · next h₂ =>
      exact readAll_of_readChar ((readChar_two _ (by omega) h₂).trans (by rw [hc]; rfl))
    · next h₂ =>
      split
      · next h₃ =>
        have hthree := readChar_three rest (Nat.lt_of_not_le h₂) h₃ (by omega)
        exact readAll_of_readChar (hthree.trans (by rw [hc]; rfl))
      · next h₃ =>
        have hfour := readChar_four rest (Nat.lt_of_not_le h₃) (by omega)
        exact readAll_of_readChar (hfour.trans (by rw [hc]; rfl))

theorem readAll_encode (s : List Char) : readAll (encode s) = s.map some := by
  induction s with
  | nil => simp [encode, readAll]
  | cons c cs ih =>
      have hcons : encode (c :: cs) = String.utf8EncodeChar c ++ encode cs := List.flatMap_cons
      rw [hcons, readAll_utf8EncodeChar, ih, List.map_cons]

theorem decodeLossy_encode (s : List Char) : decodeLossy (encode s) = s := by
  simp [decodeLossy, readAll_encode, Function.comp_def]

theorem utf8EncodeChar_ofNat {b : UInt8} (hb : b.toNat < 0x80) :
    String.utf8EncodeChar (Char.ofNat b.toNat) = [b] := by
  have hvalid : b.toNat.isValidChar := .inl (by omega)
  have hvalue : (Char.ofNat b.toNat).val.toNat = b.toNat := by
    rw [Char.ofNat, dif_pos hvalid]
    rfl
  unfold String.utf8EncodeChar
  dsimp only
  rw [hvalue, if_pos (by omega), UInt8.ofNat_toNat]

/-- A text that is encoded with a byte below 128 at its start starts with that byte's character. -/
theorem eq_cons_of_encode {text : List Char} {b : UInt8} (hb : b.toNat < 0x80) {bytes : List UInt8}
    (h : encode text = b :: bytes) :
    ∃ rest, text = Char.ofNat b.toNat :: rest ∧ encode rest = bytes := by
  have hread : text.map some = some (Char.ofNat b.toNat) :: readAll bytes := by
    rw [← readAll_encode, h, readAll, readChar, if_pos hb, List.drop_zero]
  cases text with
  | nil => cases hread
  | cons c rest =>
      obtain rfl : c = Char.ofNat b.toNat := Option.some.inj (List.cons.inj hread).1
      have hcons : encode (Char.ofNat b.toNat :: rest) = b :: encode rest :=
        List.flatMap_cons.trans (by rw [utf8EncodeChar_ofNat hb]; rfl)
      exact ⟨rest, rfl, (List.cons.inj (hcons.symm.trans h)).2⟩

/-! ## Counting characters -/

/-- A byte that goes on a character starts none. -/
theorem readAll_cons_of_tail {b : UInt8} (hlow : 0x80 ≤ b.toNat) (hhigh : b.toNat ≤ 0xBF)
    (rest : List UInt8) : readAll (b :: rest) = none :: readAll rest := by
  have hnone : continuation? b.toNat = none := by
    unfold continuation?
    grind
  rw [readAll, readChar, if_neg (Nat.not_lt_of_le hlow), hnone]
  rfl

/-- The bytes that go on a character would each count for one if they stood alone. -/
theorem length_readAll_drop_readTail {low high : Nat} (hlow : 0x80 ≤ low) (hhigh : high ≤ 0xBF)
    (count value : Nat) (bytes : List UInt8) :
    (readAll (bytes.drop (readTail low high count value bytes).2)).length ≤
      (readAll bytes).length := by
  induction count generalizing low high value bytes with
  | zero => exact Nat.le_refl _
  | succ count ih =>
      cases bytes with
      | nil => exact Nat.le_refl _
      | cons b bs =>
          rw [readTail]
          split
          · next hb =>
              rw [readAll_cons_of_tail (Nat.le_trans hlow hb.1) (Nat.le_trans hb.2 hhigh),
                List.length_cons]
              exact Nat.le_succ_of_le (ih (Nat.le_refl _) (Nat.le_refl _) _ bs)
          · exact Nat.le_refl _

/-- One byte more makes one character more at most. -/
theorem length_readAll_cons_le (a : UInt8) (rest : List UInt8) :
    (readAll (a :: rest)).length ≤ (readAll rest).length + 1 := by
  have hdrop : (readAll (rest.drop (readChar a rest).2)).length ≤ (readAll rest).length := by
    unfold readChar
    split
    · exact Nat.le_refl _
    · split
      · exact Nat.le_refl _
      · next low high count hcount =>
          have hrange : 0x80 ≤ low ∧ high ≤ 0xBF := by
            unfold continuation? at hcount
            grind
          exact length_readAll_drop_readTail hrange.1 hrange.2 count _ rest
  rw [readAll, List.length_cons]
  exact Nat.succ_le_succ hdrop

end VolumePlugin.Text.Utf8
