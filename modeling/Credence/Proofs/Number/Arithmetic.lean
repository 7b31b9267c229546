/-
What doubles are as numbers, and how close arithmetic on them comes to the exact
result.  A sum that does not overflow is a number nearest to the exact sum, and so are
a product in range and half of a double.
-/
import Credence.Proofs.Number.Rounding

namespace Credence.Number

open Float.Model Float.Model.UnpackedFloat

/-- The bit that stands for a sign. -/
theorem toNat_packComponents (s : Sign) (e : BitVec 11) (m : BitVec 52) :
    (packComponents .binary64 s e m).toNat =
      s.toBitVec.toNat * 2 ^ 63 + e.toNat * 2 ^ 52 + m.toNat := by
  have he := e.isLt
  have hm := m.isLt
  rw [packComponents, BitVec.toNat_append, BitVec.toNat_append,
    ← Nat.shiftLeft_add_eq_or_of_lt hm, ← Nat.shiftLeft_add_eq_or_of_lt he,
    Nat.shiftLeft_eq, Nat.shiftLeft_eq]
  omega

theorem ofFloat_of_bits {x : Float} {s : Sign} {field fraction : Nat}
    (hfield : field < 2 ^ 11) (hfraction : fraction < 2 ^ 52)
    (h : x.toBits.toNat = s.toBitVec.toNat * 2 ^ 63 + field * 2 ^ 52 + fraction) :
    ∃ negative, signOf negative = s ∧
      Binary64.ofFloat x =
        if field = 2047 then if fraction = 0 then .infinite negative else .nan
        else if field = 0 then .finite negative fraction (-1074)
        else .finite negative (2 ^ 52 + fraction) ((field : Int) - 1075) := by
  have hfield' : x.toBits.toNat / 2 ^ 52 % 2 ^ 11 = field := by
    rw [h]
    cases s <;> simp only [Sign.toBitVec, BitVec.toNat_ofNat] <;> omega
  have hfraction' : x.toBits.toNat % 2 ^ 52 = fraction := by
    rw [h]
    cases s <;> simp only [Sign.toBitVec, BitVec.toNat_ofNat] <;> omega
  refine ⟨decide (2 ^ 63 ≤ x.toBits.toNat), ?_, ?_⟩
  · rw [h]
    cases s with
    | negative =>
        simp only [Sign.toBitVec, BitVec.toNat_ofNat]
        rw [decide_eq_true (by omega)]
        rfl
    | positive =>
        simp only [Sign.toBitVec, BitVec.toNat_ofNat]
        rw [decide_eq_false (by omega)]
        rfl
  · rw [Binary64.ofFloat_def, hfield', hfraction']

/-- What is too large becomes infinite. -/
def clip : UnpackedFloat → UnpackedFloat
  | .finite s m e h => if e ≤ 971 then .finite s m e h else .infinity s
  | u => u

theorem pack_finite (s : Sign) {m : Nat} {e : Int} (hm : 0 < m) (h : Trimmed m e) :
    UnpackedFloat.pack .binary64 (.finite s m e hm) =
      if 971 < e then packedInfinity .binary64 s
      else if 2 ^ 52 ≤ m then
        packComponents .binary64 s (BitVec.ofNat 11 (e + 1075).toNat) (BitVec.ofNat 52 m)
      else packComponents .binary64 s 0#11 (BitVec.ofNat 52 m) := by
  have hrange : 2 ^ 11 ≤ (e + 1075).toNat + 1 ↔ 971 < e := by omega
  have hfull : m.log2 + 1 = Format.binary64.mantissaBits ↔ 2 ^ 52 ≤ m := by
    change m.log2 + 1 = 53 ↔ 2 ^ 52 ≤ m
    rw [← Nat.le_log2 hm.ne']
    have := (Nat.log2_lt hm.ne').mpr h.lt
    omega
  have hfield : (e + Format.binary64.exponentBias +
      Format.binary64.mantissaBitsWithoutImplicit).toNat = (e + 1075).toNat := by
    change (e + (1023 : Nat) + (52 : Nat)).toNat = (e + 1075).toNat
    omega
  simp only [UnpackedFloat.pack, hrange, hfull, hfield]

/-- Writing a rounded number into bits and reading it again loses nothing but what is
out of range. -/
theorem unpack_pack {u : UnpackedFloat} (hu : Rounded u) :
    (Float.Model.pack u).unpack = clip u := by
  change (Float.ofModel (Float.Model.pack u)).toModel.unpack = _
  rw [unpack_toModel]
  have hbits : (Float.ofModel (Float.Model.pack u)).toBits.toNat =
      (UnpackedFloat.pack .binary64 u).toNat := rfl
  rcases hu with s | @⟨s, m, e, hm, hu⟩
  · rw [UnpackedFloat.pack, packedZero, toNat_packComponents] at hbits
    obtain ⟨negative, hsign, hread⟩ := ofFloat_of_bits (by decide) (by decide) hbits
    rw [hread, ← hsign]
    rfl
  · have hlt := hu.lt
    have hmin := hu.min_le
    rw [pack_finite s hm hu] at hbits
    rw [clip]
    split at hbits
    · next hmax =>
        rw [packedInfinity, toNat_packComponents] at hbits
        obtain ⟨negative, hsign, hread⟩ := ofFloat_of_bits (by decide) (by decide) hbits
        rw [if_neg (Int.not_le.mpr hmax), hread, ← hsign]
        rfl
    · next hmax =>
        rw [if_pos (by omega)]
        split at hbits
        · next hnormal =>
            rw [toNat_packComponents] at hbits
            obtain ⟨negative, hsign, hread⟩ :=
              ofFloat_of_bits (BitVec.isLt _) (BitVec.isLt _) hbits
            have hfield : (BitVec.ofNat 11 (e + 1075).toNat).toNat = (e + 1075).toNat := by
              rw [BitVec.toNat_ofNat]
              omega
            have hfraction : (BitVec.ofNat 52 m).toNat = m - 2 ^ 52 := by
              rw [BitVec.toNat_ofNat]
              omega
            rw [hfield, hfraction, if_neg (by omega), if_neg (by omega)] at hread
            rw [hread, Binary64.unpacked, dif_pos (by omega), hsign]
            exact finite_congr (by omega) (by omega)
        · next hsmall =>
            rw [toNat_packComponents] at hbits
            obtain ⟨negative, hsign, hread⟩ :=
              ofFloat_of_bits (BitVec.isLt _) (BitVec.isLt _) hbits
            have hfraction : (BitVec.ofNat 52 m).toNat = m := by
              rw [BitVec.toNat_ofNat]
              omega
            rw [hfraction] at hread
            change Binary64.ofFloat _ = .finite negative m (-1074) at hread
            rw [hread, Binary64.unpacked, dif_pos hm, hsign]
            exact finite_congr rfl (hu.full.resolve_left hsmall).symm

/-- Rounding does not go past a number that need not be rounded. -/
theorem Nearest.le_of_le {x r y : ℚ} (h : Nearest x r) (hy : Representable y)
    (hyx : y ≤ x) : y ≤ r := by
  by_contra hnot
  have hle := h.le y hy
  rw [abs_of_nonpos (by linarith), abs_of_nonpos (by linarith)] at hle
  linarith

theorem Nearest.ge_of_ge {x r y : ℚ} (h : Nearest x r) (hy : Representable y)
    (hxy : x ≤ y) : r ≤ y := by
  by_contra hnot
  have hle := h.le y hy
  rw [abs_of_nonneg (by linarith), abs_of_nonneg (by linarith)] at hle
  linarith

section magnitude

variable {m n : Nat} {e f : Int}

/-- Magnitudes are ordered as their places. -/
theorem magnitude_lt (he : Trimmed m e) (hf : Trimmed n f)
    (h : (e + 1074) * 2 ^ 52 + m < (f + 1074) * 2 ^ 52 + n) :
    (m : ℚ) * 2 ^ e < n * 2 ^ f := by
  have hm := he.lt
  have hn := hf.lt
  have hefull := he.full
  have hffull := hf.full
  have hfmin := hf.min_le
  have hemin := he.min_le
  rcases Int.lt_trichotomy e f with hlt | rfl | hgt
  · have hm' : (m : ℚ) < 2 ^ 53 := by exact_mod_cast hm
    have hn' : (2 : ℚ) ^ 52 ≤ n := by
      have : 2 ^ 52 ≤ n := by omega
      exact_mod_cast this
    calc (m : ℚ) * 2 ^ e < 2 ^ 53 * 2 ^ e :=
          mul_lt_mul_of_pos_right hm' (zpow_pos two_pos e)
      _ = 2 ^ 52 * 2 ^ (e + 1) := by
          rw [zpow_add_one₀ two_ne_zero]
          ring
      _ ≤ n * 2 ^ f :=
          mul_le_mul hn' (zpow_le_zpow_right₀ one_le_two (by omega))
            (zpow_pos two_pos _).le (by positivity)
  · apply mul_lt_mul_of_pos_right _ (zpow_pos two_pos e)
    have : m < n := by omega
    exact_mod_cast this
  · omega

theorem magnitude_nonneg : (0 : ℚ) ≤ m * 2 ^ e :=
  mul_nonneg (Nat.cast_nonneg m) (zpow_pos two_pos e).le

theorem magnitude_pos (hm : 0 < m) : (0 : ℚ) < m * 2 ^ e :=
  mul_pos (Nat.cast_pos.mpr hm) (zpow_pos two_pos e)

theorem magnitude_eq (he : Trimmed m e) (hf : Trimmed n f)
    (h : (e + 1074) * 2 ^ 52 + m = (f + 1074) * 2 ^ 52 + n) : m = n ∧ e = f := by
  have hm := he.lt
  have hn := hf.lt
  have hefull := he.full
  have hffull := hf.full
  have hfmin := hf.min_le
  have hemin := he.min_le
  omega

end magnitude

/-- A rounded number by its magnitude, which may be zero, with its place. -/
theorem Rounded.exists_magnitude {u : UnpackedFloat} (hu : Rounded u) :
    ∃ (s : Sign) (m : Nat) (e : Int), Trimmed m e ∧
      toRat u = signed s (m * 2 ^ e) ∧ key u = s.apply ((e + 1074) * 2 ^ 52 + m) := by
  rcases hu with s | ⟨s, hm, h⟩
  · refine ⟨s, 0, -1074, ⟨by decide, by decide, Or.inr rfl⟩, ?_, ?_⟩
    · rw [Nat.cast_zero, zero_mul, signed_zero]
      rfl
    · cases s <;> rfl
  · exact ⟨s, _, _, h, rfl, rfl⟩

/-- Rounded numbers are ordered as their places. -/
theorem toRat_lt_of_key_lt {u v : UnpackedFloat} (hu : Rounded u) (hv : Rounded v)
    (h : key u < key v) : toRat u < toRat v := by
  obtain ⟨s, m, e, hme, hu, hukey⟩ := hu.exists_magnitude
  obtain ⟨t, n, f, hnf, hv, hvkey⟩ := hv.exists_magnitude
  have hemin := hme.min_le
  have hfmin := hnf.min_le
  have hefull := hme.full
  have hffull := hnf.full
  rw [hukey, hvkey] at h
  rw [hu, hv]
  cases s with
  | negative =>
      cases t with
      | negative =>
          apply neg_lt_neg
          apply magnitude_lt hnf hme
          simp only [Sign.apply] at h
          omega
      | positive =>
          have hm : (0 : ℚ) ≤ m * 2 ^ e := magnitude_nonneg
          have hn : (0 : ℚ) ≤ n * 2 ^ f := magnitude_nonneg
          have hpos : 0 < m ∨ 0 < n := by
            simp only [Sign.apply] at h
            omega
          rcases hpos with hm' | hn'
          · exact (neg_lt_zero.mpr (magnitude_pos hm')).trans_le hn
          · exact (neg_nonpos.mpr hm).trans_lt (magnitude_pos hn')
  | positive =>
      cases t with
      | negative =>
          simp only [Sign.apply] at h
          omega
      | positive => exact magnitude_lt hme hnf h

theorem toRat_eq_of_key_eq {u v : UnpackedFloat} (hu : Rounded u) (hv : Rounded v)
    (h : key u = key v) : toRat u = toRat v := by
  obtain ⟨s, m, e, hme, hu, hukey⟩ := hu.exists_magnitude
  obtain ⟨t, n, f, hnf, hv, hvkey⟩ := hv.exists_magnitude
  have hemin := hme.min_le
  have hfmin := hnf.min_le
  rw [hukey, hvkey] at h
  rw [hu, hv]
  by_cases hst : s = t
  · obtain ⟨rfl, rfl⟩ := magnitude_eq hme hnf (by
      subst hst
      cases s
      all_goals
        simp only [Sign.apply] at h
        omega)
    rw [hst]
  · -- only both zeros have one place and two signs
    have hzero : m = 0 ∧ n = 0 := by
      cases s <;> cases t
      all_goals
        simp only [Sign.apply, not_true_eq_false] at h hst
      all_goals omega
    rw [hzero.1, hzero.2, Nat.cast_zero, zero_mul, zero_mul, signed_zero, signed_zero]

theorem abs_toRat_zero (s : Sign) : |toRat (.zero s)| = 0 := abs_zero

theorem abs_toRat_finite (s : Sign) {m : Nat} {e : Int} (hm : 0 < m) :
    |toRat (.finite s m e hm)| = m * 2 ^ e := by
  have hpos : (0 : ℚ) < m * 2 ^ e := magnitude_pos hm
  cases s with
  | negative => rw [toRat, signed, abs_neg, abs_of_pos hpos]
  | positive => rw [toRat, signed, abs_of_pos hpos]

section float

variable {x y : Float}

theorem clip_of_isFinite {u : UnpackedFloat} (h : (clip u).isFinite = true) :
    clip u = u := by
  cases u with
  | finite s m e hm =>
      rw [clip] at h ⊢
      split at h
      · next hmax => rw [if_pos hmax]
      · cases h
  | _ => rfl

/-- The number that a finite double is. -/
def value (x : Float) : ℚ := toRat x.toModel.unpack

theorem isNaN_of_isFinite (hx : x.isFinite = true) : x.isNaN = false := by
  change x.toModel.unpack.isFinite = true at hx
  change x.toModel.unpack.isNaN = false
  generalize x.toModel.unpack = u at hx
  cases u with
  | notANumber => cases hx
  | _ => rfl

theorem rounded_unpack (hx : x.isFinite = true) : Rounded x.toModel.unpack := by
  have hcanonical := (unpack_number (isNaN_of_isFinite hx)).1
  change x.toModel.unpack.isFinite = true at hx
  generalize x.toModel.unpack = u at hx hcanonical
  rcases hcanonical with s | s | ⟨s, hm, h⟩
  · cases hx
  · exact .zero s
  · exact .finite s hm h.toTrimmed

theorem value_lt_iff (hx : x.isFinite = true) (hy : y.isFinite = true) :
    value x < value y ↔ x < y := by
  have hxkey := (unpack_number (isNaN_of_isFinite hx)).2
  have hykey := (unpack_number (isNaN_of_isFinite hy)).2
  rw [Number.lt_iff (isNaN_of_isFinite hx) (isNaN_of_isFinite hy), ← hxkey, ← hykey]
  constructor
  · intro hlt
    by_contra hnot
    rcases (not_lt.mp hnot).lt_or_eq with hgt | heq
    · exact hlt.not_gt (toRat_lt_of_key_lt (rounded_unpack hy) (rounded_unpack hx) hgt)
    · exact hlt.ne' (toRat_eq_of_key_eq (rounded_unpack hy) (rounded_unpack hx) heq)
  · exact toRat_lt_of_key_lt (rounded_unpack hx) (rounded_unpack hy)

theorem value_le_iff (hx : x.isFinite = true) (hy : y.isFinite = true) :
    value x ≤ value y ↔ x ≤ y := by
  rw [← not_lt, value_lt_iff hy hx,
    Number.lt_iff (isNaN_of_isFinite hy) (isNaN_of_isFinite hx),
    Number.le_iff (isNaN_of_isFinite hx) (isNaN_of_isFinite hy), not_lt]

/-- A sum that does not overflow is a number nearest to the exact one. -/
theorem nearest_value_add (hx : x.isFinite = true) (hy : y.isFinite = true)
    (hsum : (x + y).isFinite = true) :
    Nearest (value x + value y) (value (x + y)) := by
  obtain ⟨hrounded, hnearest⟩ := nearest_add (rounded_unpack hx) (rounded_unpack hy)
  have hunpack := unpack_pack hrounded
  change (x + y).toModel.unpack = _ at hunpack
  change (x + y).toModel.unpack.isFinite = true at hsum
  rw [hunpack] at hsum
  change Nearest _ (toRat (x + y).toModel.unpack)
  rw [hunpack, clip_of_isFinite hsum]
  exact hnearest

theorem abs_value_le (hx : x.isFinite = true) : |value x| ≤ 2 * 2 ^ (1023 : Int) := by
  have hcanonical := (unpack_number (isNaN_of_isFinite hx)).1
  have hrounded := rounded_unpack hx
  rw [value]
  generalize x.toModel.unpack = u at hcanonical hrounded
  rcases hcanonical with s | s | @⟨s, m, e, hm, h⟩
  · cases hrounded
  · rw [abs_toRat_zero]
    exact (mul_pos two_pos (zpow_pos two_pos _)).le
  · have hm' : (m : ℚ) ≤ 2 ^ 53 := by exact_mod_cast h.lt.le
    rw [abs_toRat_finite]
    calc (m : ℚ) * 2 ^ e ≤ 2 ^ 53 * 2 ^ (971 : Int) :=
          mul_le_mul hm' (zpow_le_zpow_right₀ one_le_two h.le_max)
            (zpow_pos two_pos e).le (by positivity)
      _ = 2 * 2 ^ (1023 : Int) := by
          rw [show (1023 : Int) = 52 + 971 from rfl, zpow_add₀ two_ne_zero, ← mul_assoc]
          norm_num

/-- What is rounded to something of at most half the range is in range. -/
theorem clip_of_abs_le {u : UnpackedFloat} (hu : Rounded u)
    (h : |toRat u| ≤ 2 ^ (1023 : Int)) : (clip u).isFinite = true := by
  rcases hu with s | @⟨s, m, e, hm, hu⟩
  · rfl
  · rw [clip]
    split
    · rfl
    · next hmax =>
        have hm' : (2 : ℚ) ^ 52 ≤ m := by
          have : 2 ^ 52 ≤ m := hu.full.resolve_right (by omega)
          exact_mod_cast this
        have hlarge : (2 : ℚ) ^ 52 * 2 ^ (972 : Int) ≤ m * 2 ^ e :=
          mul_le_mul hm' (zpow_le_zpow_right₀ one_le_two (by omega))
            (zpow_pos two_pos _).le (by positivity)
        have hover : (2 : ℚ) ^ (1023 : Int) < 2 ^ 52 * 2 ^ (972 : Int) := by
          rw [← zpow_natCast, ← zpow_add₀ two_ne_zero]
          exact zpow_lt_zpow_right₀ one_lt_two (by decide)
        rw [abs_toRat_finite] at h
        exact absurd (hlarge.trans h) (not_le.mpr hover)

theorem representable_limit : Representable (2 ^ (1023 : Int)) :=
  ⟨1, 1023, by decide, by decide, by simp⟩

/-- What is rounded from at most half the range is in range. -/
theorem finite_of_nearest {x : Float} {u : UnpackedFloat} {z : ℚ} (hu : Rounded u)
    (hunpack : x.toModel.unpack = clip u) (hnearest : Nearest z (toRat u))
    (hz : |z| ≤ 2 ^ (1023 : Int)) : x.isFinite = true ∧ Nearest z (value x) := by
  obtain ⟨hlow, hhigh⟩ := abs_le.mp hz
  have hfinite : (clip u).isFinite = true := by
    apply clip_of_abs_le hu
    exact abs_le.mpr ⟨hnearest.le_of_le representable_limit.neg hlow,
      hnearest.ge_of_ge representable_limit hhigh⟩
  constructor
  · change x.toModel.unpack.isFinite = true
    rw [hunpack]
    exact hfinite
  · rw [value, hunpack, clip_of_isFinite hfinite]
    exact hnearest

/-- A product in range is a number nearest to the exact one. -/
theorem nearest_value_mul (hx : x.isFinite = true) (hy : y.isFinite = true)
    (h : |value x * value y| ≤ 2 ^ (1023 : Int)) :
    (x * y).isFinite = true ∧ Nearest (value x * value y) (value (x * y)) := by
  obtain ⟨hrounded, hnearest⟩ := nearest_mul (rounded_unpack hx) (rounded_unpack hy)
  exact finite_of_nearest hrounded (unpack_pack hrounded) hnearest h

/-- A sum of at most half the range does not overflow. -/
theorem nearest_value_add_of_abs_le (hx : x.isFinite = true) (hy : y.isFinite = true)
    (h : |value x + value y| ≤ 2 ^ (1023 : Int)) :
    (x + y).isFinite = true ∧ Nearest (value x + value y) (value (x + y)) := by
  obtain ⟨hrounded, hnearest⟩ := nearest_add (rounded_unpack hx) (rounded_unpack hy)
  exact finite_of_nearest hrounded (unpack_pack hrounded) hnearest h

theorem unpack_two : (2.0 : Float).toModel.unpack =
    .finite .positive (2 ^ 52) (-51) (by decide) := by
  rfl

/-- Half of a double is in range, and a number nearest to the exact half. -/
theorem nearest_value_half (hx : x.isFinite = true) :
    (x / 2.0).isFinite = true ∧ Nearest (value x / 2) (value (x / 2.0)) := by
  obtain ⟨hrounded, hnearest⟩ :=
    nearest_div (rounded_unpack hx) .positive (n := 2 ^ 52) (f := -51) (by decide)
  have htwo : toRat (.finite .positive (2 ^ 52) (-51) (by decide)) = 2 := by
    rw [toRat, signed]
    norm_num
  rw [htwo, ← unpack_two] at hnearest
  rw [← unpack_two] at hrounded
  apply finite_of_nearest hrounded (unpack_pack hrounded) hnearest
  rw [abs_div, abs_two, div_le_iff₀ two_pos, mul_comm]
  exact abs_value_le hx

end float

end Credence.Number
