import VolumePlugin.Mounts.Table
import VolumePlugin.Proofs.Text.Utf8

/-! # Escapes in the fields of a mount

A field is read from left to right: a backslash before the three octal digits of a byte stands for
that byte with them, and every other character stands for itself. So what was escaped is found
again, and a field is read as it stands if and only if there is no escape in it. -/

namespace VolumePlugin.Mounts

open Text

/-! ## Escaped texts -/

/-- A text as it is written in a field. -/
def escaped (text : List Char) : List Char :=
  text.flatMap fun c => if isEscaped c then '\\' :: octalDigits c else [c]

theorem escape_eq_escaped (field : String) : escape field = escaped field.toList :=
  rfl

theorem escaped_append (before after : List Char) :
    escaped (before ++ after) = escaped before ++ escaped after :=
  List.flatMap_append

theorem escaped_singleton (c : Char) :
    escaped [c] = if isEscaped c then '\\' :: octalDigits c else [c] :=
  List.flatMap_singleton _ c

theorem escaped_cons (c : Char) (cs : List Char) : escaped (c :: cs) = escaped [c] ++ escaped cs :=
  escaped_append [c] cs

theorem escaped_eq_nil_iff {text : List Char} : escaped text = [] ↔ text = [] := by
  cases text with
  | nil => simp [escaped]
  | cons c cs =>
      rw [escaped_cons, escaped_singleton]
      cases isEscaped c <;> simp

theorem isEscaped_cases {c : Char} (h : isEscaped c = true) :
    c = ' ' ∨ c = '\t' ∨ c = '\n' ∨ c = '\\' := by
  simpa [isEscaped, or_assoc] using h

/-! ## Escapes -/

/-- The escape of a byte: a backslash, and the three octal digits of its value. -/
def escapeOf (value : Nat) : List Char :=
  ['\\', Nat.digitChar (value / 64), Nat.digitChar (value / 8 % 8), Nat.digitChar (value % 8)]

/-- Whether a backslash stands before the three octal digits of a byte anywhere in a text. -/
def HoldsEscape (text : List Char) : Prop :=
  ∃ value < 256, escapeOf value <:+: text

instance (text : List Char) : Decidable (HoldsEscape text) :=
  inferInstanceAs (Decidable (∃ value < 256, escapeOf value <:+: text))

/-- The byte of an octal digit. -/
def digitByte (d : Nat) : UInt8 :=
  UInt8.ofNat (d + 48)

theorem toNat_digitByte {d : Nat} (h : d < 8) : (digitByte d).toNat = d + 48 :=
  Utf8.toNat_ofNat (by omega)

theorem utf8EncodeChar_digitChar : ∀ d < 8,
    String.utf8EncodeChar (Nat.digitChar d) = [digitByte d] := by
  decide

theorem ofNat_digitByte : ∀ d < 8, Char.ofNat (digitByte d).toNat = Nat.digitChar d := by
  decide

theorem octalDigit?_eq_some_iff {b : UInt8} {d : Nat} :
    octalDigit? b = some d ↔ d < 8 ∧ b = digitByte d := by
  unfold octalDigit?
  constructor
  · intro h
    split at h
    · next hb =>
      obtain rfl := Option.some.inj h
      refine ⟨by omega, ?_⟩
      rw [digitByte, Nat.sub_add_cancel hb.1, UInt8.ofNat_toNat]
    · cases h
  · rintro ⟨hd, rfl⟩
    rw [toNat_digitByte hd, if_pos (by omega), Nat.add_sub_cancel]

theorem escapedByte?_eq_some_iff {a b c byte : UInt8} :
    escapedByte? a b c = some byte ↔ ∃ value < 256, a = digitByte (value / 64) ∧
      b = digitByte (value / 8 % 8) ∧ c = digitByte (value % 8) ∧ byte = UInt8.ofNat value := by
  unfold escapedByte?
  simp only [Option.bind_eq_bind, Option.bind_eq_some_iff, octalDigit?_eq_some_iff]
  constructor
  · rintro ⟨x, ⟨hx, rfl⟩, y, ⟨hy, rfl⟩, z, ⟨hz, rfl⟩, h⟩
    split at h
    · next hvalue =>
      refine ⟨64 * x + 8 * y + z, hvalue, ?_, ?_, ?_, (Option.some.inj h).symm⟩
      · congr 1
        omega
      · congr 1
        omega
      · congr 1
        omega
    · cases h
  · rintro ⟨value, hvalue, rfl, rfl, rfl, rfl⟩
    refine ⟨_, ⟨by omega, rfl⟩, _, ⟨by omega, rfl⟩, _, ⟨by omega, rfl⟩, ?_⟩
    have hsum : 64 * (value / 64) + 8 * (value / 8 % 8) + value % 8 = value := by omega
    rw [hsum, if_pos hvalue]

theorem encode_escapeOf {value : Nat} (hvalue : value < 256) (rest : List Char) :
    Utf8.encode (escapeOf value ++ rest) = backslash :: digitByte (value / 64) ::
      digitByte (value / 8 % 8) :: digitByte (value % 8) :: Utf8.encode rest := by
  have hbackslash : String.utf8EncodeChar '\\' = [backslash] := by decide
  simp only [escapeOf, Utf8.encode, List.cons_append, List.nil_append, List.flatMap_cons,
    hbackslash,
    utf8EncodeChar_digitChar _ (show value / 64 < 8 by omega),
    utf8EncodeChar_digitChar _ (show value / 8 % 8 < 8 by omega),
    utf8EncodeChar_digitChar _ (show value % 8 < 8 by omega)]

/-- A byte that is an octal digit is one also as a character. -/
theorem exists_of_encode_eq_cons {text : List Char} {d : Nat} (hd : d < 8) {bytes : List UInt8}
    (h : Utf8.encode text = digitByte d :: bytes) :
    ∃ rest, text = Nat.digitChar d :: rest ∧ Utf8.encode rest = bytes := by
  have hlow : (digitByte d).toNat < 0x80 := by
    rw [toNat_digitByte hd]
    omega
  obtain ⟨rest, rfl, hrest⟩ := Utf8.eq_cons_of_encode hlow h
  exact ⟨rest, by rw [ofNat_digitByte d hd], hrest⟩

/-! ## Reading bytes -/

theorem backslash_ne_ofNat {n : Nat} (h : n < 256) (hne : n ≠ 92) : backslash ≠ UInt8.ofNat n := by
  intro heq
  have hn : (92 : UInt8).toNat = n := (congrArg UInt8.toNat heq).trans (Utf8.toNat_ofNat h)
  exact hne hn.symm

/-- The byte of a backslash is part of no other character. -/
theorem backslash_notMem_utf8EncodeChar {c : Char} (h : c ≠ '\\') :
    backslash ∉ String.utf8EncodeChar c := by
  have hc : c.val.toNat ≠ 92 := fun heq => h (Char.toNat_inj.mp heq)
  have hhigh : ∀ n, 128 ≤ n ∧ n < 256 → backslash ≠ UInt8.ofNat n :=
    fun n hn => backslash_ne_ofNat hn.2 (by omega)
  unfold String.utf8EncodeChar
  dsimp only
  split
  · exact List.not_mem_cons_of_ne_of_not_mem (backslash_ne_ofNat (by omega) hc) List.not_mem_nil
  · -- Longer characters have no byte below 128.
    intro hmem
    split at hmem
    · simp only [List.mem_cons, List.not_mem_nil, or_false] at hmem
      rcases hmem with heq | heq <;> exact hhigh _ (by omega) heq
    · split at hmem
      · simp only [List.mem_cons, List.not_mem_nil, or_false] at hmem
        rcases hmem with heq | heq | heq <;> exact hhigh _ (by omega) heq
      · simp only [List.mem_cons, List.not_mem_nil, or_false] at hmem
        rcases hmem with heq | heq | heq | heq <;> exact hhigh _ (by omega) heq

theorem unescapeBytes_cons {x : UInt8} (hx : x ≠ backslash) (rest : List UInt8) :
    unescapeBytes (x :: rest) = x :: unescapeBytes rest := by
  match rest with
  | [] | [_] | [_, _] => rfl
  | a :: b :: c :: following => rw [unescapeBytes, if_neg hx]

theorem unescapeBytes_append {plain : List UInt8} (hplain : backslash ∉ plain)
    (rest : List UInt8) : unescapeBytes (plain ++ rest) = plain ++ unescapeBytes rest := by
  induction plain with
  | nil => rfl
  | cons x xs ih =>
      rw [List.mem_cons, not_or] at hplain
      rw [List.cons_append, unescapeBytes_cons (Ne.symm hplain.1), ih hplain.2, List.cons_append]

theorem unescapeBytes_escapeOf {value : Nat} (hvalue : value < 256) (rest : List Char) :
    unescapeBytes (Utf8.encode (escapeOf value ++ rest)) =
      UInt8.ofNat value :: unescapeBytes (Utf8.encode rest) := by
  have hbyte := escapedByte?_eq_some_iff.mpr ⟨value, hvalue, rfl, rfl, rfl, rfl⟩
  rw [encode_escapeOf hvalue, unescapeBytes, if_pos rfl, hbyte]

/-- A backslash that starts no escape stands for itself. -/
theorem unescapeBytes_backslash {rest : List Char}
    (hplain : ∀ value < 256, ¬ escapeOf value <+: '\\' :: rest) :
    unescapeBytes (backslash :: Utf8.encode rest) =
      backslash :: unescapeBytes (Utf8.encode rest) := by
  match hbytes : Utf8.encode rest with
  | [] | [_] | [_, _] => rfl
  | a :: b :: c :: following =>
      rw [unescapeBytes, if_pos rfl]
      cases hbyte : escapedByte? a b c with
      | none => rfl
      | some byte =>
          obtain ⟨value, hvalue, rfl, rfl, rfl, -⟩ := escapedByte?_eq_some_iff.mp hbyte
          obtain ⟨two, rfl, htwo⟩ := exists_of_encode_eq_cons (by omega) hbytes
          obtain ⟨one, rfl, hone⟩ := exists_of_encode_eq_cons (by omega) htwo
          obtain ⟨after, rfl, -⟩ := exists_of_encode_eq_cons (by omega) hone
          exact absurd ⟨after, rfl⟩ (hplain value hvalue)

/-! ## Reading fields -/

/-- A field with the bytes that it is read as. The rules do not look at bytes, and no two of them
apply to one field. -/
inductive Reads : List Char → List UInt8 → Prop where
  | nil : Reads [] []
  | byte {value : Nat} {rest : List Char} {bytes : List UInt8} (hvalue : value < 256) :
      Reads rest bytes → Reads (escapeOf value ++ rest) (UInt8.ofNat value :: bytes)
  | char {c : Char} {rest : List Char} {bytes : List UInt8}
      (hplain : ∀ value < 256, ¬ escapeOf value <+: c :: rest) :
      Reads rest bytes → Reads (c :: rest) (String.utf8EncodeChar c ++ bytes)

theorem Reads.execution {text : List Char} {bytes : List UInt8} (h : Reads text bytes) :
    unescapeBytes (Utf8.encode text) = bytes := by
  induction h with
  | nil => rfl
  | byte hvalue _ ih => rw [unescapeBytes_escapeOf hvalue, ih]
  | @char c rest bytes hplain _ ih =>
      have hcons : Utf8.encode (c :: rest) = String.utf8EncodeChar c ++ Utf8.encode rest :=
        List.flatMap_cons
      rw [hcons, ← ih]
      by_cases hc : c = '\\'
      · subst hc
        exact unescapeBytes_backslash hplain
      · exact unescapeBytes_append (backslash_notMem_utf8EncodeChar hc) _

theorem exists_reads (text : List Char) : ∃ bytes, Reads text bytes := by
  match text with
  | [] => exact ⟨[], .nil⟩
  | c :: cs =>
      by_cases hescape : ∃ value < 256, escapeOf value <+: c :: cs
      · obtain ⟨value, hvalue, rest, hrest⟩ := hescape
        have hshorter : rest.length ≤ cs.length := by
          have hlength := congrArg List.length hrest
          simp only [escapeOf, List.length_append, List.length_cons, List.length_nil] at hlength
          omega
        obtain ⟨bytes, hbytes⟩ := exists_reads rest
        rw [← hrest]
        exact ⟨_, .byte hvalue hbytes⟩
      · obtain ⟨bytes, hbytes⟩ := exists_reads cs
        exact ⟨_, .char (fun value hvalue hstart => hescape ⟨value, hvalue, hstart⟩) hbytes⟩
  termination_by text.length

theorem reads_iff {text : List Char} {bytes : List UInt8} :
    Reads text bytes ↔ unescapeBytes (Utf8.encode text) = bytes := by
  refine ⟨Reads.execution, ?_⟩
  rintro rfl
  obtain ⟨bytes, hbytes⟩ := exists_reads text
  rwa [hbytes.execution]

theorem not_escapeOf_prefix {c : Char} (hc : c ≠ '\\') (value : Nat) (rest : List Char) :
    ¬ escapeOf value <+: c :: rest :=
  fun hstart => hc (List.cons_prefix_cons.mp hstart).1.symm

/-- What was escaped is read as the text that it was escaped from. -/
theorem reads_escaped (text : List Char) : Reads (escaped text) (Utf8.encode text) := by
  induction text with
  | nil => exact .nil
  | cons c cs ih =>
      have hencode : Utf8.encode (c :: cs) = String.utf8EncodeChar c ++ Utf8.encode cs :=
        List.flatMap_cons
      rw [escaped_cons, escaped_singleton, hencode]
      cases hc : isEscaped c with
      | true =>
          have hbyte : c.toNat < 256 ∧ String.utf8EncodeChar c = [UInt8.ofNat c.toNat] := by
            rcases isEscaped_cases hc with rfl | rfl | rfl | rfl <;> decide
          rw [hbyte.2]
          exact .byte hbyte.1 ih
      | false =>
          have hne : c ≠ '\\' := by
            rintro rfl
            cases hc
          exact .char (fun value _ => not_escapeOf_prefix hne value _) ih

theorem unescape_escaped (text : List Char) : unescape (escaped text) = String.ofList text := by
  rw [unescape, (reads_escaped text).execution, Utf8.decodeLossy_encode]

/-! ## Fields without escapes -/

theorem holdsEscape_cons {c : Char} {rest : List Char}
    (hplain : ∀ value < 256, ¬ escapeOf value <+: c :: rest) :
    HoldsEscape (c :: rest) ↔ HoldsEscape rest := by
  constructor
  · rintro ⟨value, hvalue, hpart⟩
    rcases List.infix_cons_iff.mp hpart with hstart | hrest
    · exact absurd hstart (hplain value hvalue)
    · exact ⟨value, hvalue, hrest⟩
  · rintro ⟨value, hvalue, hpart⟩
    exact ⟨value, hvalue, List.infix_cons hpart⟩

theorem Reads.of_not_holdsEscape {text : List Char} {bytes : List UInt8} (h : Reads text bytes)
    (hnone : ¬ HoldsEscape text) : bytes = Utf8.encode text := by
  induction h with
  | nil => rfl
  | @byte value rest _ hvalue _ _ =>
      exact absurd ⟨value, hvalue, (List.prefix_append _ rest).isInfix⟩ hnone
  | char hplain _ ih =>
      rw [holdsEscape_cons hplain] at hnone
      rw [ih hnone]
      rfl

theorem Reads.length_le {text : List Char} {bytes : List UInt8} (h : Reads text bytes) :
    (Utf8.readAll bytes).length ≤ text.length := by
  induction h with
  | nil => simp [Utf8.readAll]
  | @byte value rest bytes _ _ ih =>
      calc (Utf8.readAll (UInt8.ofNat value :: bytes)).length
        _ ≤ (Utf8.readAll bytes).length + 1 := Utf8.length_readAll_cons_le _ bytes
        _ ≤ rest.length + 1 := Nat.succ_le_succ ih
        _ ≤ (escapeOf value ++ rest).length := by simp [escapeOf]
  | char _ _ ih =>
      rw [Utf8.readAll_utf8EncodeChar]
      exact Nat.succ_le_succ ih

/-- An escape is longer than anything that its byte may be read as. -/
theorem Reads.length_lt {text : List Char} {bytes : List UInt8} (h : Reads text bytes)
    (hholds : HoldsEscape text) : (Utf8.readAll bytes).length < text.length := by
  induction h with
  | nil =>
      obtain ⟨value, -, hpart⟩ := hholds
      cases List.infix_nil.mp hpart
  | @byte value rest bytes _ hrest _ =>
      calc (Utf8.readAll (UInt8.ofNat value :: bytes)).length
        _ ≤ (Utf8.readAll bytes).length + 1 := Utf8.length_readAll_cons_le _ bytes
        _ ≤ rest.length + 1 := Nat.succ_le_succ hrest.length_le
        _ < (escapeOf value ++ rest).length := by simp [escapeOf]
  | char hplain _ ih =>
      rw [Utf8.readAll_utf8EncodeChar]
      exact Nat.succ_lt_succ (ih ((holdsEscape_cons hplain).mp hholds))

theorem unescape_eq_iff (text : List Char) :
    unescape text = String.ofList text ↔ ¬ HoldsEscape text := by
  have hreads : Reads text (unescapeBytes (Utf8.encode text)) := reads_iff.mpr rfl
  rw [unescape]
  constructor
  · intro hsame hholds
    have hlength := congrArg List.length (String.ofList_inj.mp hsame)
    rw [Utf8.decodeLossy, List.length_map] at hlength
    exact Nat.ne_of_lt (hreads.length_lt hholds) hlength
  · intro hnone
    rw [hreads.of_not_holdsEscape hnone, Utf8.decodeLossy_encode]

/-- Reading undoes escaping, and it leaves a field as it stands if and only if no escape of a byte
is found anywhere in it. -/
theorem escapes_inverted (field : String) :
    unescape (escape field) = field ∧
      (unescape field.toList = field ↔ ¬ HoldsEscape field.toList) := by
  constructor
  · rw [escape_eq_escaped, unescape_escaped, String.ofList_toList]
  · simpa using unescape_eq_iff field.toList

/-- Digits of a greater value, other digits and digits that are cut off make no escape. -/
example : ¬ HoldsEscape "\\400 \\089 \\\\é \\04".toList := by
  decide +kernel

end VolumePlugin.Mounts
