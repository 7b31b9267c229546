/-
Counts as doubles.  A count is turned into a number nearest to it, or into infinity
where it is out of range, and what is not zero stays above zero.  Small counts are
doubles, and come back as they were.  The largest count not above a double is the
whole part of the number that the double is.
-/
import Mathlib.Algebra.Order.Floor.Semifield
import Mathlib.Data.Rat.Floor
import Credence.Proofs.Number.Arithmetic

namespace Credence.Number

open Float.Model Float.Model.UnpackedFloat

/-- Finer units, and as many more of them. -/
theorem mul_two_pow_mul_zpow (m k : Nat) (e : Int) :
    ((m * 2 ^ k : Nat) : ℚ) * 2 ^ (e - k) = m * 2 ^ e := by
  push_cast
  rw [mul_assoc, ← zpow_natCast, ← zpow_add₀ two_ne_zero, add_sub_cancel]

/-- A count in units that are fine enough is rounded to a number nearest to it. -/
theorem nearest_finer {m : Nat} (hm : 0 < m) {k : Nat} (hk : 52 ≤ k) (s : Sign)
    (e : Int) :
    Rounded (roundWithAccuracy .binary64 s (m * 2 ^ k) (e - k) .exact) ∧
      Nearest (signed s (m * 2 ^ e))
        (toRat (roundWithAccuracy .binary64 s (m * 2 ^ k) (e - k) .exact)) := by
  have hfine : 52 ≤ (m * 2 ^ k).log2 := by
    rw [Nat.le_log2 (by positivity)]
    calc 2 ^ 52 ≤ 2 ^ k := Nat.pow_le_pow_right two_pos hk
      _ ≤ m * 2 ^ k := Nat.le_mul_of_pos_left _ hm
  have hround := nearest_roundWithAccuracy s (Stands.exact (m * 2 ^ k)) (e := e - k)
    (Or.inl hfine)
  rwa [mul_two_pow_mul_zpow] at hround

theorem unpack_one : (1.0 : Float).toModel.unpack =
    .finite .positive (2 ^ 52) (-52) (by decide) := by
  rfl

theorem rounded_one : Rounded (1.0 : Float).toModel.unpack :=
  rounded_unpack (by decide +kernel)

theorem value_one : value 1.0 = 1 := by
  rw [value, unpack_one, toRat, signed]
  norm_num

/-- A product with one is a number nearest to the other factor. -/
theorem nearest_mul_one {u : UnpackedFloat} (hu : Rounded u) :
    Rounded (UnpackedFloat.mul .binary64 u (1.0 : Float).toModel.unpack) ∧
      Nearest (toRat u)
        (toRat (UnpackedFloat.mul .binary64 u (1.0 : Float).toModel.unpack)) := by
  have hproduct := nearest_mul hu rounded_one
  rwa [← value, value_one, mul_one] at hproduct

/-- Counts that a word holds exactly are multiplied with one. -/
theorem toModel_ofNat_small {n : Nat} (hn : n < 2 ^ 53) :
    (Float.ofNat n).toModel = .pack (UnpackedFloat.mul .binary64
      (n.toUInt64.toFloat).toModel.unpack (1.0 : Float).toModel.unpack) := by
  change (Float.ofScientific n false 0).toModel = _
  rw [Float.ofScientific, dif_pos ⟨hn, Nat.zero_le _⟩]
  rfl

/-- Other counts are rounded from finer units. -/
theorem toModel_ofNat_large {n : Nat} (hn : 2 ^ 53 ≤ n) :
    (Float.ofNat n).toModel = .pack
      (roundWithAccuracy .binary64 .positive (n * 2 ^ 53) (0 - (53 : Nat)) .exact) := by
  change (Float.ofScientific n false 0).toModel = _
  rw [Float.ofScientific, dif_neg (fun h => Nat.not_lt.mpr hn h.1)]
  dsimp only
  rw [if_neg Bool.false_ne_true]
  have hzero : n ≠ 0 := by omega
  have hlow : ¬ (0 : Int) < -(2 ^ Format.binary64.exponentBits + n.log2) := by
    have : (0 : Int) ≤ 2 ^ Format.binary64.exponentBits := by decide
    omega
  change Float.Model.pack (UnpackedFloat.ofScientific .binary64 n 0) = _
  rw [UnpackedFloat.ofScientific, dif_neg hzero, if_neg (by decide), if_neg hlow,
    if_pos (Int.le_refl 0)]
  change Float.Model.pack (roundWithAccuracy .binary64 .positive
    (n <<< 53 * 1) (0 - (53 : Nat)) .exact) = _
  rw [Nat.shiftLeft_eq, Nat.mul_one]

theorem representable_natCast {n : Nat} (hn : n < 2 ^ 53) : Representable (n : ℚ) :=
  ⟨n, 0, by rwa [Int.natAbs_natCast], by decide, by simp⟩

theorem abs_natCast_le {n : Nat} (hn : n < 2 ^ 53) : |(n : ℚ)| ≤ 2 ^ (1023 : Int) := by
  rw [Nat.abs_cast]
  calc (n : ℚ) ≤ 2 ^ 53 := by exact_mod_cast hn.le
    _ ≤ 2 ^ (1023 : Int) := by
        rw [← zpow_natCast]
        exact zpow_le_zpow_right₀ one_le_two (by decide)

/-- Counts below the bound are held exactly before they are multiplied. -/
theorem toRat_toUInt64 {n : Nat} (hn : n < 2 ^ 53) :
    Rounded n.toUInt64.toFloat.toModel.unpack ∧
      toRat n.toUInt64.toFloat.toModel.unpack = n := by
  have hnat : n.toUInt64.toNat = n := by
    rw [Nat.toUInt64, UInt64.toNat_ofNat']
    omega
  have hmodel : n.toUInt64.toFloat.toModel =
      .pack (UnpackedFloat.normalize .binary64 (n : Int) 0 .positive) := by
    change Float.Model.pack (UnpackedFloat.normalize .binary64
      (n.toUInt64.toNat : Int) 0 .positive) = _
    rw [hnat]
  obtain ⟨hrounded, hnearest⟩ := nearest_normalize n 0 .positive
  rw [zpow_zero, mul_one, Int.cast_natCast] at hnearest
  have hvalue := hnearest.eq_of_representable (representable_natCast hn)
  have hclip : clip (UnpackedFloat.normalize .binary64 (n : Int) 0 .positive) =
      UnpackedFloat.normalize .binary64 (n : Int) 0 .positive := by
    apply clip_of_isFinite
    exact clip_of_abs_le hrounded (hvalue ▸ abs_natCast_le hn)
  rw [hmodel, unpack_pack hrounded, hclip]
  exact ⟨hrounded, hvalue⟩

/-- A count becomes a number nearest to it, unless that is out of range. -/
theorem exists_unpack_ofNat (n : Nat) :
    ∃ u, Rounded u ∧ Nearest n (toRat u) ∧
      (Float.ofNat n).toModel.unpack = clip u := by
  by_cases hn : n < 2 ^ 53
  · obtain ⟨hrounded, hvalue⟩ := toRat_toUInt64 hn
    obtain ⟨hproduct, hnearest⟩ := nearest_mul_one hrounded
    rw [hvalue] at hnearest
    exact ⟨_, hproduct, hnearest, toModel_ofNat_small hn ▸ unpack_pack hproduct⟩
  · have hlarge : 2 ^ 53 ≤ n := Nat.le_of_not_lt hn
    obtain ⟨hrounded, hnearest⟩ := nearest_finer (m := n) (by omega)
      (Nat.le_succ 52) .positive 0
    rw [signed, zpow_zero, mul_one] at hnearest
    exact ⟨_, hrounded, hnearest, toModel_ofNat_large hlarge ▸ unpack_pack hrounded⟩

/-- What is above zero stays so where it is out of range. -/
theorem key_clip_pos {u : UnpackedFloat} (hu : Rounded u) (h : 0 < toRat u) :
    0 < key (clip u) := by
  rcases hu with s | @⟨s, m, e, hm, hu⟩
  · exact absurd h (lt_irrefl _)
  · cases s with
    | negative => exact absurd h (not_lt.mpr (neg_nonpos.mpr magnitude_nonneg))
    | positive =>
        have hmin := hu.min_le
        rw [clip]
        split
        · simp only [key, Sign.apply]
          omega
        · simp only [key, Sign.apply]
          omega

theorem isNaN_clip {u : UnpackedFloat} (hu : Rounded u) : (clip u).isNaN = false := by
  rcases hu with s | ⟨s, hm, hu⟩
  · rfl
  · rw [clip]
    split
    · rfl
    · rfl

theorem isNaN_ofNat (n : Nat) : (Float.ofNat n).isNaN = false := by
  obtain ⟨u, hu, -, hunpack⟩ := exists_unpack_ofNat n
  change (Float.ofNat n).toModel.unpack.isNaN = false
  rw [hunpack]
  exact isNaN_clip hu

/-- A count is above zero as a double if and only if it is one as a number. -/
theorem ofNat_pos_iff (n : Nat) : 0.0 < Float.ofNat n ↔ 0 < n := by
  constructor
  · intro h
    by_contra hzero
    rw [Nat.eq_zero_of_not_pos hzero] at h
    exact absurd h (by decide +kernel)
  · intro hn
    obtain ⟨u, hu, hnearest, hunpack⟩ := exists_unpack_ofNat n
    have hone : Representable 1 := ⟨1, 0, by decide, by decide, by norm_num⟩
    have hle : (1 : ℚ) ≤ n := by exact_mod_cast hn
    have hpos : 0 < toRat u := one_pos.trans_le (hnearest.le_of_le hone hle)
    have hkey := key_clip_pos hu hpos
    rw [← hunpack, (unpack_number (isNaN_ofNat n)).2] at hkey
    rw [Number.lt_iff (by decide +kernel) (isNaN_ofNat n)]
    exact hkey

/-- Somewhat more than all counts is far from half the range. -/
theorem abs_le_limit {z : ℚ} (hz : 0 ≤ z) (h : z ≤ 2 ^ (65 : Int)) :
    |z| ≤ 2 ^ (1023 : Int) := by
  rw [abs_of_nonneg hz]
  exact h.trans (zpow_le_zpow_right₀ one_le_two (by decide))

theorem nearest_value_ofNat {n : Nat} (hn : |(n : ℚ)| ≤ 2 ^ (1023 : Int)) :
    (Float.ofNat n).isFinite = true ∧ Nearest n (value (Float.ofNat n)) := by
  obtain ⟨u, hu, hnearest, hunpack⟩ := exists_unpack_ofNat n
  exact finite_of_nearest hu hunpack hnearest hn

/-- Small counts are doubles. -/
theorem value_ofNat {n : Nat} (hn : n < 2 ^ 53) :
    (Float.ofNat n).isFinite = true ∧ value (Float.ofNat n) = n := by
  obtain ⟨hfinite, hnearest⟩ := nearest_value_ofNat (abs_natCast_le hn)
  exact ⟨hfinite, hnearest.eq_of_representable (representable_natCast hn)⟩

/-- They stay what they are when multiplied with one. -/
theorem value_one_mul_ofNat {n : Nat} (hn : n < 2 ^ 53) :
    (1.0 * Float.ofNat n).isFinite = true ∧ value (1.0 * Float.ofNat n) = n := by
  obtain ⟨hfinite, hvalue⟩ := value_ofNat hn
  have hexact : value 1.0 * value (Float.ofNat n) = n := by
    rw [value_one, hvalue, one_mul]
  have hlimit := abs_natCast_le hn
  rw [← hexact] at hlimit
  obtain ⟨hfinite, hnearest⟩ := nearest_value_mul (by decide +kernel) hfinite hlimit
  rw [hexact] at hnearest
  exact ⟨hfinite, hnearest.eq_of_representable (representable_natCast hn)⟩

section read

variable {x : Float}

/-- A finite double is read as the number that it is. -/
theorem exists_read (hx : x.isFinite = true) :
    ∃ negative m e, Binary64.ofFloat x = .finite negative m e ∧ m < 2 ^ 53
      ∧ value x = signed (signOf negative) (m * 2 ^ e) := by
  have hrounded := rounded_unpack hx
  rw [value]
  rw [unpack_toModel] at hrounded ⊢
  cases hread : Binary64.ofFloat x with
  | nan =>
      rw [hread] at hrounded
      cases hrounded
  | infinite negative =>
      rw [hread] at hrounded
      cases hrounded
  | finite negative m e =>
      refine ⟨negative, m, e, rfl, ?_⟩
      rw [hread, Binary64.unpacked] at hrounded
      rw [Binary64.unpacked]
      split
      · next hm =>
          rw [dif_pos hm] at hrounded
          cases hrounded with
          | finite _ _ h => exact ⟨h.lt, rfl⟩
      · next hzero =>
          rw [Nat.eq_zero_of_not_pos hzero, Nat.cast_zero, zero_mul, signed_zero]
          exact ⟨by decide, rfl⟩

/-- The largest count not above a double is its whole part, as far as counts go. -/
theorem floorCount_eq (hx : x.isFinite = true) :
    floorCount x = min ⌊value x⌋₊ maxCount := by
  obtain ⟨negative, m, e, hread, hm, hvalue⟩ := exists_read hx
  rw [floorCount, hread, hvalue]
  cases negative with
  | true =>
      have hneg : signed (signOf true) ((m : ℚ) * 2 ^ e) ≤ 0 :=
        neg_nonpos.mpr magnitude_nonneg
      rw [Nat.floor_of_nonpos hneg, Nat.min_eq_left (Nat.zero_le _)]
  | false =>
      change (if 0 ≤ e then min (m <<< e.toNat) maxCount else m >>> (-e).toNat) =
        min ⌊(m : ℚ) * 2 ^ e⌋₊ maxCount
      split
      · next he =>
          have hnat : (m : ℚ) * 2 ^ e = (m <<< e.toNat : Nat) := by
            rw [Nat.shiftLeft_eq, Nat.cast_mul, Nat.cast_pow, Nat.cast_ofNat,
              ← zpow_natCast, Int.toNat_of_nonneg he]
          rw [hnat, Nat.floor_natCast]
      · next he =>
          have hk : e = -((-e).toNat : Int) := by omega
          have hdiv : (m : ℚ) * 2 ^ e = (m : ℚ) / (2 ^ (-e).toNat : Nat) := by
            rw [hk, zpow_neg, zpow_natCast, Int.neg_neg, Int.toNat_natCast,
              ← div_eq_mul_inv, Nat.cast_pow, Nat.cast_ofNat]
          rw [hdiv, Nat.floor_div_natCast, Nat.floor_natCast, Nat.shiftRight_eq_div_pow,
            Nat.min_eq_left]
          exact (Nat.div_le_self _ _).trans (hm.le.trans (by decide))

/-- The smallest count not below a count is that count. -/
theorem ceilCount_of_value {n : Nat} (hx : x.isFinite = true) (hn : n ≤ maxCount)
    (h : value x = n) : ceilCount x = n := by
  obtain ⟨negative, m, e, hread, -, hvalue⟩ := exists_read hx
  rw [h] at hvalue
  rw [ceilCount, hread]
  cases negative with
  | true =>
      have hnonneg : (0 : ℚ) ≤ m * 2 ^ e := magnitude_nonneg
      have hneg : (n : ℚ) = -(m * 2 ^ e) := hvalue
      have hzero : (n : ℚ) = 0 := by
        have hn : (0 : ℚ) ≤ n := Nat.cast_nonneg n
        linarith
      exact (Nat.cast_eq_zero.mp hzero).symm
  | false =>
      have hpos : (m : ℚ) * 2 ^ e = n := hvalue.symm
      dsimp only
      split
      · next he =>
          have hnat : m <<< e.toNat = n := by
            rw [← Int.toNat_of_nonneg he, zpow_natCast] at hpos
            rw [Nat.shiftLeft_eq]
            exact_mod_cast hpos
          rw [hnat, Nat.min_eq_left hn]
      · next he =>
          have hnat : m = n * 2 ^ (-e).toNat := by
            have hk : e = -((-e).toNat : Int) := by omega
            rw [hk, zpow_neg, zpow_natCast] at hpos
            have hmul : (m : ℚ) = n * 2 ^ (-e).toNat := by
              rw [← hpos]
              field_simp
            exact_mod_cast hmul
          have hunit : 0 < 2 ^ (-e).toNat := Nat.two_pow_pos _
          rw [Nat.one_shiftLeft, hnat, Nat.mul_comm, Nat.mul_add_div hunit,
            Nat.div_eq_of_lt (Nat.sub_lt hunit Nat.one_pos), Nat.add_zero]

end read

end Credence.Number
