import VolumePlugin.Capacity
import Mathlib.Order.Bounds.Defs
import Mathlib.Tactic.SplitIfs

/-! # Sizes and the bytes of them

A size that a capacity range is resolved to holds the bytes that are required, and its own bytes are
within the limit, also where the number of them is as great as an answer can hold. It is the least
size that fits the range, where bytes are counted as exactly as an answer can hold them. -/

namespace VolumePlugin.Capacity

/-! ## Conversions -/

theorem gibToBytes_le_maxBytes (gib : Nat) : gibToBytes gib ≤ maxBytes := by
  unfold gibToBytes
  split
  · exact Nat.div_mul_le_self maxBytes gibBytes
  · exact Nat.min_le_right ..

/-- The number of bytes of a size fits into an answer. -/
theorem toInt_reported (gib : Nat) : (reported gib).toInt = gibToBytes gib := by
  have hfits : gibToBytes gib < 2 ^ 63 :=
    Nat.lt_of_le_of_lt (gibToBytes_le_maxBytes gib) (by decide)
  exact Int64.toInt_ofNat_of_lt hfits

theorem bytesToGib_le_iff {bytes : Int} {gib : Nat} :
    bytesToGib bytes ≤ gib ↔ bytes ≤ gib * gibBytes := by
  unfold bytesToGib gibBytes
  omega

/-- Rounding up loses no bytes. -/
theorem le_bytesToGib_mul (bytes : Int) : bytes ≤ bytesToGib bytes * gibBytes :=
  bytesToGib_le_iff.mp (Nat.le_refl _)

theorem bytesToGib_mono {b₁ b₂ : Int} (h : b₁ ≤ b₂) : bytesToGib b₁ ≤ bytesToGib b₂ :=
  bytesToGib_le_iff.mpr (Int.le_trans h (le_bytesToGib_mul b₂))

theorem bytesToGib_le {bytes : Int} (h : bytes ≤ maxBytes) : bytesToGib bytes ≤ maxBytes := by
  unfold bytesToGib gibBytes
  unfold maxBytes at h ⊢
  omega

theorem gibToBytes_of_le {gib : Nat} (h : gib ≤ maxBytes) :
    gibToBytes gib = min (gib * gibBytes) maxBytes :=
  if_neg (Nat.not_lt.mpr h)

theorem gibToBytes_of_lt {gib : Nat} (h : maxBytes < gib) :
    gibToBytes gib = maxBytes / gibBytes * gibBytes :=
  if_pos h

/-- A larger size has no fewer bytes, unless it is cut down to whole GiB and the smaller one to the
greatest number of bytes. -/
theorem gibToBytes_le_iff {g₁ g₂ : Nat} (h : g₁ ≤ g₂) :
    gibToBytes g₁ ≤ gibToBytes g₂ ↔
      ¬ (maxBytes / gibBytes < g₁ ∧ g₁ ≤ maxBytes ∧ maxBytes < g₂) := by
  by_cases h₂ : g₂ ≤ maxBytes
  · rw [gibToBytes_of_le h₂, gibToBytes_of_le (Nat.le_trans h h₂)]
    have hmul : g₁ * gibBytes ≤ g₂ * gibBytes := Nat.mul_le_mul_right gibBytes h
    omega
  · rw [gibToBytes_of_lt (Nat.lt_of_not_le h₂)]
    by_cases h₁ : g₁ ≤ maxBytes
    · rw [gibToBytes_of_le h₁]
      unfold maxBytes gibBytes at *
      omega
    · rw [gibToBytes_of_lt (Nat.lt_of_not_le h₁)]
      omega

/-- Some bytes need at most a size if and only if they are at most the bytes of the size, unless the
size is cut down to whole GiB and the bytes are more than these. -/
theorem adjoint_iff {bytes : Int} (hbytes : bytes ≤ maxBytes) {gib : Nat} :
    (bytesToGib bytes ≤ gib ↔ bytes ≤ gibToBytes gib) ↔
      ¬ (maxBytes < gib ∧ (maxBytes / gibBytes * gibBytes : Nat) < bytes) := by
  rw [bytesToGib_le_iff]
  by_cases hgib : gib ≤ maxBytes
  · rw [gibToBytes_of_le hgib]
    omega
  · rw [gibToBytes_of_lt (Nat.lt_of_not_le hgib)]
    have hheld : bytes ≤ gib * gibBytes := by
      unfold maxBytes gibBytes at *
      omega
    omega

/-- Where the bytes of a size are more than an answer can hold, an answer holds at least as many as
a request can ask for. -/
theorem le_gibToBytes {bytes : Int} {gib : Nat} (hbytes : bytes ≤ maxBytes) (hgib : gib ≤ maxBytes)
    (h : bytesToGib bytes ≤ gib) : bytes ≤ gibToBytes gib :=
  ((adjoint_iff hbytes).mpr fun hlarge => Nat.not_lt.mpr hgib hlarge.1).mp h

/-- Conversions keep the order of bytes, and they keep the order of sizes and are adjoint for all
sizes that are no greater than a number of bytes can be. Above, they fail where the two ways of
cutting a size down meet. -/
theorem conversions_adjoint (b b' : Int64) (g g' : UInt64) :
    (b ≤ b' → bytesToGib b.toInt ≤ bytesToGib b'.toInt) ∧
      (g ≤ g' →
        (gibToBytes g.toNat ≤ gibToBytes g'.toNat ↔
          ¬ (maxBytes / gibBytes < g.toNat ∧ g.toNat ≤ maxBytes ∧ maxBytes < g'.toNat))) ∧
      ((bytesToGib b.toInt ≤ g.toNat ↔ b.toInt ≤ gibToBytes g.toNat) ↔
        ¬ (maxBytes < g.toNat ∧ (maxBytes / gibBytes * gibBytes : Nat) < b.toInt)) :=
  ⟨fun h => bytesToGib_mono (Int64.le_iff_toInt_le.mp h),
    fun h => gibToBytes_le_iff (UInt64.le_iff_toNat_le.mp h), adjoint_iff (Int64.toInt_le b)⟩

/-- Among sizes that a number of bytes can name, those with too many bytes are all cut down in one
way, and the laws hold up to the greatest number. -/
theorem conversions_adjoint_at_limits :
    (9223372036854775806 : Int64) ≤ 9223372036854775807 ∧
      bytesToGib (9223372036854775806 : Int64).toInt ≤
        bytesToGib (9223372036854775807 : Int64).toInt ∧
      (8589934592 : UInt64) ≤ 9223372036854775807 ∧
      gibToBytes (8589934592 : UInt64).toNat ≤ gibToBytes (9223372036854775807 : UInt64).toNat ∧
      (bytesToGib (9223372036854775806 : Int64).toInt ≤ (8589934592 : UInt64).toNat ↔
        (9223372036854775806 : Int64).toInt ≤ gibToBytes (8589934592 : UInt64).toNat) := by
  have hbytes : (9223372036854775806 : Int64) ≤ 9223372036854775807 := by decide
  have hsizes : (8589934592 : UInt64) ≤ 9223372036854775807 := by decide
  obtain ⟨hmono, hsizesMono, hadjoint⟩ :=
    conversions_adjoint 9223372036854775806 9223372036854775807 8589934592 9223372036854775807
  exact ⟨hbytes, hmono hbytes, hsizes, (hsizesMono hsizes).mpr (by decide),
    hadjoint.mpr (by decide)⟩

/-- The next size has fewer bytes than the greatest one that a number of bytes can name, and fewer
than need no more than this size. -/
theorem gibToBytes_drops :
    gibToBytes 9223372036854775808 < gibToBytes 9223372036854775807 ∧
      bytesToGib 9223372036854775807 ≤ 9223372036854775808 ∧
      ¬ (9223372036854775807 : Int) ≤ gibToBytes 9223372036854775808 := by
  decide

/-! ## Resolving a range -/

/-- A size that a capacity range admits, and the bytes that an answer reports for it. -/
structure Honours (range : Option CapacityRange) (gib : Nat) (bytes : Int64) : Prop where
  reported : bytes.toInt = gibToBytes gib
  minimum : minGib ≤ gib
  required : ∀ r, range = some r → r.requiredBytes ≤ bytes
  limit : ∀ r, range = some r → 0 < r.limitBytes → bytes ≤ r.limitBytes

/-- No bounds are resolved to a size that is above the greatest number of bytes. -/
theorem resolveBounds_le {required limit : Int} {gib : Nat} (hrequired : required ≤ maxBytes)
    (h : resolveBounds required limit = .ok gib) : gib ≤ maxBytes := by
  simp only [resolveBounds] at h
  split_ifs at h
  obtain rfl := Except.ok.inj h
  exact Nat.max_le.mpr ⟨bytesToGib_le hrequired, by decide⟩

theorem resolveBounds_eq_ok {required limit : Int} {gib : Nat} (hrequired : required ≤ maxBytes)
    (h : resolveBounds required limit = .ok gib) :
    minGib ≤ gib ∧ required ≤ gibToBytes gib ∧ (0 < limit → gibToBytes gib ≤ limit) := by
  have hgib := resolveBounds_le hrequired h
  simp only [resolveBounds] at h
  split_ifs at h with hnegative hunbounded hcrossed htight
  obtain rfl := Except.ok.inj h
  refine ⟨Nat.le_max_right .., le_gibToBytes hrequired hgib (Nat.le_max_left ..), fun hlimit => ?_⟩
  exact Int.not_lt.mp fun hless => htight ⟨hlimit, hless⟩

/-- Every size that a range is resolved to honours the range. -/
theorem honours_of_resolve {range : Option CapacityRange} {gib : Nat}
    (h : resolve range = .ok gib) : Honours range gib (Capacity.reported gib) := by
  cases range with
  | none =>
      obtain rfl := Except.ok.inj h
      exact ⟨toInt_reported minGib, Nat.le_refl _, nofun, nofun⟩
  | some range =>
      have hword : range.requiredBytes.toInt ≤ maxBytes := Int64.toInt_le range.requiredBytes
      obtain ⟨hminimum, hrequired, hlimit⟩ := resolveBounds_eq_ok hword h
      refine ⟨toInt_reported gib, hminimum, ?_, ?_⟩
      · rintro r ⟨⟩
        rw [Int64.le_iff_toInt_le, toInt_reported]
        exact hrequired
      · rintro r ⟨⟩ hpositive
        rw [Int64.le_iff_toInt_le, toInt_reported]
        exact hlimit (Int64.lt_iff_toInt_lt.mp hpositive)

theorem resolve_le {range : Option CapacityRange} {gib : Nat} (h : resolve range = .ok gib) :
    gib ≤ maxBytes := by
  cases range with
  | none =>
      obtain rfl := Except.ok.inj h
      decide
  | some range => exact resolveBounds_le (Int64.toInt_le range.requiredBytes) h

/-- What is reported of a size that a range is resolved to is the number of its bytes, or the
greatest number that there is. -/
theorem toInt_reported_of_resolve {range : Option CapacityRange} {gib : Nat}
    (h : resolve range = .ok gib) :
    (reported gib).toInt = min (gib * 1073741824) 9223372036854775807 := by
  rw [toInt_reported, gibToBytes_of_le (resolve_le h)]
  unfold gibBytes maxBytes
  omega

/-! ## The least size -/

/-- A range has a meaning if no bound of it is negative, and one of them is given. -/
structure Proper (range : CapacityRange) : Prop where
  required : 0 ≤ range.requiredBytes.toInt
  limit : 0 ≤ range.limitBytes.toInt
  bounded : range.requiredBytes.toInt ≠ 0 ∨ range.limitBytes.toInt ≠ 0

/-- A size fits a range if the provider makes it and its bytes, counted exactly, are within the
bounds. A limit of zero is none. -/
structure Fits (range : CapacityRange) (gib : Nat) : Prop where
  minimum : minGib ≤ gib
  required : range.requiredBytes.toInt ≤ gib * gibBytes
  limit : range.limitBytes.toInt = 0 ∨ (gib * gibBytes : Int) ≤ range.limitBytes.toInt

/-- A range is brimming if its limit is the greatest number of bytes, and more bytes are required
than any size within this limit has. -/
structure Brimming (range : CapacityRange) : Prop where
  limit : range.limitBytes.toInt = maxBytes
  required : (maxBytes / gibBytes * gibBytes : Nat) < range.requiredBytes.toInt

/-- The smallest size for a range, whatever its limit. -/
def smallest (range : CapacityRange) : Nat :=
  max (bytesToGib range.requiredBytes.toInt) minGib

section Ranges

variable {range : CapacityRange} {gib : Nat}

theorem smallest_le_iff :
    smallest range ≤ gib ↔ minGib ≤ gib ∧ range.requiredBytes.toInt ≤ gib * gibBytes := by
  rw [smallest, Nat.max_le, bytesToGib_le_iff, and_comm]

/-- A limit excludes large sizes only, so if any size fits, the smallest one does. -/
theorem isLeast_fits_iff :
    IsLeast {s | Fits range s} gib ↔ gib = smallest range ∧ Fits range gib := by
  constructor
  · rintro ⟨hfits, hleast⟩
    have hle : smallest range ≤ gib := smallest_le_iff.mpr ⟨hfits.minimum, hfits.required⟩
    obtain ⟨hminimum, hrequired⟩ := smallest_le_iff.mp (Nat.le_refl (smallest range))
    have hbytes : (smallest range * gibBytes : Int) ≤ gib * gibBytes := by
      exact_mod_cast Nat.mul_le_mul_right gibBytes hle
    have hsmallest : Fits range (smallest range) :=
      ⟨hminimum, hrequired, hfits.limit.imp_right (Int.le_trans hbytes)⟩
    exact ⟨Nat.le_antisymm (hleast hsmallest) hle, hfits⟩
  · rintro ⟨rfl, hfits⟩
    exact ⟨hfits, fun s hs => smallest_le_iff.mpr ⟨hs.minimum, hs.required⟩⟩

theorem smallest_le_greatest (range : CapacityRange) :
    smallest range ≤ maxBytes / gibBytes + 1 := by
  have hword : range.requiredBytes.toInt ≤ maxBytes := Int64.toInt_le range.requiredBytes
  exact smallest_le_iff.mpr ⟨by decide, Int.le_trans hword (by decide)⟩

theorem greatest_lt_smallest_iff :
    maxBytes / gibBytes < smallest range ↔
      (maxBytes / gibBytes * gibBytes : Nat) < range.requiredBytes.toInt := by
  have hminimum : minGib ≤ maxBytes / gibBytes := by decide
  rw [← Nat.not_le, smallest_le_iff, Int.natCast_mul]
  omega

theorem Brimming.proper (h : Brimming range) : Proper range where
  required := Int.le_trans (Int.natCast_nonneg _) (Int.le_of_lt h.required)
  limit := by rw [h.limit]; exact Int.natCast_nonneg _
  bounded := .inr (by rw [h.limit]; decide)

theorem Brimming.smallest_eq (h : Brimming range) : smallest range = maxBytes / gibBytes + 1 :=
  Nat.le_antisymm (smallest_le_greatest range) (greatest_lt_smallest_iff.mpr h.required)

/-- The smallest size that holds what a brimming range requires has one byte more than its limit. -/
theorem Brimming.not_fits (h : Brimming range) : ¬ Fits range gib := by
  intro hfits
  have hrequired := h.required
  have hheld := hfits.required
  have hlimit := hfits.limit
  rw [h.limit] at hlimit
  unfold maxBytes gibBytes at *
  omega

/-- Bytes that are too many to be counted are within a limit only if it is the greatest number. -/
theorem gibToBytes_smallest_le_iff :
    gibToBytes (smallest range) ≤ range.limitBytes.toInt ↔
      (smallest range * gibBytes : Int) ≤ range.limitBytes.toInt ∨ Brimming range := by
  have hword : range.limitBytes.toInt ≤ maxBytes := Int64.toInt_le range.limitBytes
  have hsmall : smallest range ≤ maxBytes :=
    Nat.le_trans (smallest_le_greatest range) (by decide)
  have hexact : maxBytes / gibBytes < smallest range ↔ maxBytes < smallest range * gibBytes :=
    Nat.div_lt_iff_lt_mul (by decide)
  rw [gibToBytes_of_le hsmall]
  constructor
  · intro hle
    by_cases hfits : (smallest range * gibBytes : Int) ≤ range.limitBytes.toInt
    · exact .inl hfits
    · have hmany : maxBytes < smallest range * gibBytes := by omega
      exact .inr ⟨by omega, greatest_lt_smallest_iff.mp (hexact.mpr hmany)⟩
  · rintro (hfits | hbrimming)
    · omega
    · rw [hbrimming.limit]
      omega

theorem resolve_eq_ok_iff :
    resolve (some range) = .ok gib ↔
      Proper range ∧ gib = smallest range ∧
        (range.limitBytes.toInt = 0 ∨
          range.requiredBytes.toInt ≤ range.limitBytes.toInt ∧
            gibToBytes gib ≤ range.limitBytes.toInt) := by
  change resolveBounds range.requiredBytes.toInt range.limitBytes.toInt = .ok gib ↔ _
  unfold resolveBounds
  dsimp only
  split_ifs with hnegative hunbounded hcrossed htight
  · refine ⟨nofun, fun ⟨hproper, _⟩ => ?_⟩
    rcases hnegative with hrequired | hlimit
    · exact absurd hproper.required (Int.not_le.mpr hrequired)
    · exact absurd hproper.limit (Int.not_le.mpr hlimit)
  · refine ⟨nofun, fun ⟨hproper, _⟩ => ?_⟩
    have hbounded := hproper.bounded
    omega
  · refine ⟨nofun, fun ⟨_, _, hlimit⟩ => ?_⟩
    omega
  · refine ⟨nofun, ?_⟩
    rintro ⟨-, rfl, hlimit⟩
    simp only [smallest] at hlimit
    omega
  · rw [Except.ok.injEq, eq_comm]
    refine ⟨fun hgib => ⟨⟨by omega, by omega, by omega⟩, hgib, ?_⟩, fun h => h.2.1⟩
    subst hgib
    omega

end Ranges

/-- A range is resolved to the least size that fits it, and refused as invalid if there is none.
Only a brimming range, which no size fits, is resolved to a size all the same. -/
theorem range_resolved (range : CapacityRange) :
    (∀ gib, resolve (some range) = .ok gib ↔
      Proper range ∧ IsLeast {s | Fits range s} gib ∨
        Brimming range ∧ gib = maxBytes / gibBytes + 1) ∧
      ((∀ gib, resolve (some range) ≠ .ok gib) →
        ∃ text, (resolve (some range)).mapError RangeError.toCsi = .error (.invalidArgument text)) ∧
      (Brimming range → ∀ gib, ¬ Fits range gib) := by
  refine ⟨fun gib => ?_, fun hnone => ?_, fun h gib => h.not_fits⟩
  · rw [resolve_eq_ok_iff, isLeast_fits_iff]
    constructor
    · rintro ⟨hproper, rfl, hlimit⟩
      obtain ⟨hminimum, hrequired⟩ := smallest_le_iff.mp (Nat.le_refl (smallest range))
      rcases hlimit with hnone | ⟨-, hlimit⟩
      · exact .inl ⟨hproper, rfl, hminimum, hrequired, .inl hnone⟩
      · rcases gibToBytes_smallest_le_iff.mp hlimit with hexact | hbrimming
        · exact .inl ⟨hproper, rfl, hminimum, hrequired, .inr hexact⟩
        · exact .inr ⟨hbrimming, hbrimming.smallest_eq⟩
    · rintro (⟨hproper, rfl, hfits⟩ | ⟨hbrimming, rfl⟩)
      · refine ⟨hproper, rfl, hfits.limit.imp_right fun hexact => ?_⟩
        exact ⟨Int.le_trans hfits.required hexact, gibToBytes_smallest_le_iff.mpr (.inl hexact)⟩
      · rw [← hbrimming.smallest_eq]
        refine ⟨hbrimming.proper, rfl, .inr ⟨?_, gibToBytes_smallest_le_iff.mpr (.inr hbrimming)⟩⟩
        rw [hbrimming.limit]
        exact Int64.toInt_le range.requiredBytes
  · cases hresult : resolve (some range) with
    | ok gib => exact absurd hresult (hnone gib)
    | error e => exact ⟨e.message, rfl⟩

/-- Twelve GiB, no more and no less. -/
def twelveGib : CapacityRange where
  requiredBytes := 12884901888
  limitBytes := 12884901888

/-- A limit below the smallest volume that the provider makes. -/
def fiveGib : CapacityRange where
  limitBytes := 5368709120

theorem fiveGib_not_fits (gib : Nat) : ¬ Fits fiveGib gib := by
  intro hfits
  have hminimum := hfits.minimum
  have hlimit : (fiveGib.limitBytes.toInt : Int) = 5368709120 := by decide
  rcases hfits.limit with hnone | hexact
  · omega
  · unfold minGib gibBytes at *
    omega

theorem range_resolved_at_bounds :
    resolve (some twelveGib) = .ok 12 ∧ (∀ gib, resolve (some fiveGib) ≠ .ok gib) ∧
      ∃ text, (resolve (some fiveGib)).mapError RangeError.toCsi =
        .error (.invalidArgument text) := by
  have hfits : Fits twelveGib 12 := ⟨by decide, by decide, .inr (by decide)⟩
  have hleast : IsLeast {s | Fits twelveGib s} 12 := isLeast_fits_iff.mpr ⟨by decide, hfits⟩
  have htwelve : resolve (some twelveGib) = .ok 12 :=
    ((range_resolved twelveGib).1 12).mpr (.inl ⟨⟨by decide, by decide, by decide⟩, hleast⟩)
  obtain ⟨hfive, hrefused, -⟩ := range_resolved fiveGib
  have hnone : ∀ gib, resolve (some fiveGib) ≠ .ok gib := by
    intro gib hgib
    rcases (hfive gib).mp hgib with ⟨-, hleast⟩ | ⟨hbrimming, -⟩
    · exact fiveGib_not_fits gib hleast.1
    · exact absurd hbrimming.limit (by decide)
  exact ⟨htwelve, hnone, hrefused hnone⟩

/-- As many bytes as can be counted, which is one short of whole GiB. -/
def allBytes : CapacityRange where
  requiredBytes := 9223372036854775807
  limitBytes := 9223372036854775807

theorem allBytes_granted :
    resolve (some allBytes) = .ok 8589934592 ∧ (∀ gib, ¬ Fits allBytes gib) ∧
      allBytes.limitBytes.toInt < (8589934592 : Nat) * gibBytes := by
  have hproper : Proper allBytes := ⟨by decide, by decide, by decide⟩
  have hlimit : gibToBytes 8589934592 ≤ allBytes.limitBytes.toInt := by decide
  exact ⟨resolve_eq_ok_iff.mpr ⟨hproper, by decide, .inr ⟨by decide, hlimit⟩⟩,
    fun _ => Brimming.not_fits ⟨by decide, by decide⟩, by decide⟩

end VolumePlugin.Capacity
