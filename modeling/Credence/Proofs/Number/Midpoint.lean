/-
The mean of two doubles.  It is rounded twice, once as a sum and once as a half.  Even
so it lies between both of them, unless the sum overflows, and it is below the larger
one if there is any other double in between.  If one of them is a zero, the sign of
that does not show.
-/
import Credence.Proofs.Number.Arithmetic

namespace Credence.Number

open Float.Model Float.Model.UnpackedFloat

section representable

variable {x y r : ℚ}

theorem Representable.twice (h : Representable x) : Representable (2 * x) := by
  obtain ⟨m, e, hm, he, rfl⟩ := h
  refine ⟨m, e + 1, hm, by omega, ?_⟩
  rw [zpow_add_one₀ two_ne_zero]
  ring

/-- All units are as small as the smallest ones, or larger. -/
theorem Representable.exists_units (h : Representable x) :
    ∃ k : Int, x = k * 2 ^ (-1074 : Int) := by
  obtain ⟨m, e, -, he, rfl⟩ := h
  refine ⟨m * 2 ^ (e + 1074).toNat, ?_⟩
  rw [Int.cast_mul, Int.cast_pow, Int.cast_ofNat, mul_assoc, ← zpow_natCast,
    Int.toNat_of_nonneg (by omega), ← zpow_add₀ two_ne_zero, Int.add_neg_cancel_right]

/-- A number can be halved without rounding, unless it has the smallest units. -/
theorem Representable.half (h : Representable x) :
    Representable (x / 2) ∨ |x| < 2 ^ 53 * 2 ^ (-1074 : Int) := by
  obtain ⟨m, e, hm, he, rfl⟩ := h
  by_cases hmin : e = -1074
  · right
    rw [hmin, abs_mul, abs_of_pos (zpow_pos two_pos (-1074) : (0 : ℚ) < _)]
    apply mul_lt_mul_of_pos_right _ (zpow_pos two_pos _)
    rw [← Int.cast_abs, Int.abs_eq_natAbs, Int.cast_natCast]
    exact_mod_cast hm
  · left
    refine ⟨m, e - 1, hm, by omega, ?_⟩
    rw [zpow_sub_one₀ two_ne_zero]
    ring

/-- Small sums are not rounded at all. -/
theorem Nearest.eq_of_small (hx : Representable x) (hy : Representable y)
    (h : Nearest (x + y) r) (hr : |r| < 2 ^ 53 * 2 ^ (-1074 : Int)) : r = x + y := by
  have hlimit : Representable (2 ^ 53 * 2 ^ (-1074 : Int)) :=
    ⟨2 ^ 52, -1073, by decide, by decide, by
      rw [show (-1073 : Int) = -1074 + 1 from rfl, zpow_add_one₀ two_ne_zero,
        Int.cast_pow, Int.cast_ofNat, mul_comm _ (2 : ℚ), ← mul_assoc, ← pow_succ]⟩
  obtain ⟨hlow, hhigh⟩ := abs_lt.mp hr
  apply h.eq_of_representable
  obtain ⟨k, rfl⟩ := hx.exists_units
  obtain ⟨l, rfl⟩ := hy.exists_units
  rw [← add_mul] at h ⊢
  have hunit : (0 : ℚ) < 2 ^ (-1074 : Int) := zpow_pos two_pos _
  have hbelow : (k : ℚ) + l < 2 ^ 53 := by
    by_contra hnot
    exact hhigh.not_ge (h.le_of_le hlimit (mul_le_mul_of_nonneg_right (not_lt.mp hnot) hunit.le))
  have habove : -2 ^ 53 < (k : ℚ) + l := by
    by_contra hnot
    apply hlow.not_ge
    apply h.ge_of_ge hlimit.neg
    rw [← neg_mul]
    exact mul_le_mul_of_nonneg_right (not_lt.mp hnot) hunit.le
  have hbelow' : k + l < 2 ^ 53 := by exact_mod_cast hbelow
  have habove' : -2 ^ 53 < k + l := by exact_mod_cast habove
  exact ⟨k + l, -1074, by omega, by decide, by rw [Int.cast_add]⟩

end representable

section mean

variable {a b s t : ℚ}

/-- A mean that is rounded twice stays between both numbers. -/
theorem mean_bounds (ha : Representable a) (hb : Representable b) (hab : a ≤ b)
    (hs : Nearest (a + b) s) (ht : Nearest (s / 2) t) : a ≤ t ∧ t ≤ b := by
  have hlow := hs.le_of_le ha.twice (by linarith)
  have hhigh := hs.ge_of_ge hb.twice (by linarith)
  constructor
  · exact ht.le_of_le ha (by linarith)
  · exact ht.ge_of_ge hb (by linarith)

/-- It reaches the larger one only where nothing else lies between. -/
theorem mean_lt {c : ℚ} (ha : Representable a) (hb : Representable b)
    (hc : Representable c) (hac : a < c) (hcb : c < b) (hs : Nearest (a + b) s)
    (ht : Nearest (s / 2) t) : t < b := by
  obtain ⟨-, hle⟩ := mean_bounds ha hb (hac.trans hcb).le hs ht
  by_cases hhalf : a + b ≤ 2 * c
  · have hsc := hs.ge_of_ge hc.twice hhalf
    have htc := ht.ge_of_ge hc (by linarith)
    linarith
  · apply hle.lt_of_ne
    rintro rfl
    rcases hs.representable.half with hexact | hsmall
    · -- the sum is rounded to twice the larger number, though `2 * c` is nearer
      have heq := ht.eq_of_representable hexact
      have hnearer := hs.le (2 * c) hc.twice
      rw [abs_of_nonneg (by linarith), abs_of_nonpos (by linarith)] at hnearer
      linarith
    · -- the half is rounded to the larger number, though `c` is nearer
      have heq := Nearest.eq_of_small ha hb hs hsmall
      have hnearer := ht.le c hc
      rw [heq, abs_of_nonneg (by linarith), abs_of_nonpos (by linarith)] at hnearer
      linarith

end mean

section float

variable {x y z : Float}

theorem representable_value (hx : x.isFinite = true) : Representable (value x) :=
  (rounded_unpack hx).representable

/-- Finite doubles have their places between those of both infinities. -/
theorem orderKey_bounds (hx : x.isFinite = true) :
    -(2047 * 2 ^ 52) < orderKey x ∧ orderKey x < 2047 * 2 ^ 52 := by
  obtain ⟨hcanonical, hkey⟩ := unpack_number (isNaN_of_isFinite hx)
  rw [← hkey]
  apply key_lt_last hcanonical
  intro s hinfinite
  change x.toModel.unpack.isFinite = true at hx
  rw [hinfinite] at hx
  cases hx

/-- What lies between two finite doubles is finite. -/
theorem isFinite_of_between (hx : x.isFinite = true) (hy : y.isFinite = true)
    (hxz : x ≤ z) (hzy : z ≤ y) : z.isFinite = true := by
  have hz := (isNaN_of_le hxz).2
  have hlow := (Number.le_iff (isNaN_of_isFinite hx) hz).mp hxz
  have hhigh := (Number.le_iff hz (isNaN_of_isFinite hy)).mp hzy
  have hxkey := orderKey_bounds hx
  have hykey := orderKey_bounds hy
  obtain ⟨hcanonical, hkey⟩ := unpack_number hz
  change z.toModel.unpack.isFinite = true
  generalize z.toModel.unpack = u at hcanonical hkey
  rcases hcanonical with s | s | ⟨s, hm, h⟩
  · cases s
    all_goals
      simp only [key, Sign.apply] at hkey
      omega
  · rfl
  · rfl

/-- The mean of two doubles whose sum does not overflow. -/
theorem midpoint_bounds (hx : x.isFinite = true) (hy : y.isFinite = true)
    (hxy : x ≤ y) (hsum : (x + y).isFinite = true) :
    x ≤ (x + y) / 2.0 ∧ (x + y) / 2.0 ≤ y := by
  obtain ⟨hfinite, hhalf⟩ := nearest_value_half hsum
  rw [← value_le_iff hx hfinite, ← value_le_iff hfinite hy]
  exact mean_bounds (representable_value hx) (representable_value hy)
    ((value_le_iff hx hy).mpr hxy) (nearest_value_add hx hy hsum) hhalf

theorem midpoint_lt (hx : x.isFinite = true) (hy : y.isFinite = true)
    (hsum : (x + y).isFinite = true) (hxz : x < z) (hzy : z < y) :
    (x + y) / 2.0 < y := by
  have hz := isFinite_of_between hx hy (Number.le_of_lt hxz) (Number.le_of_lt hzy)
  obtain ⟨hfinite, hhalf⟩ := nearest_value_half hsum
  rw [← value_lt_iff hfinite hy]
  exact mean_lt (representable_value hx) (representable_value hy) (representable_value hz)
    ((value_lt_iff hx hz).mpr hxz) ((value_lt_iff hz hy).mpr hzy)
    (nearest_value_add hx hy hsum) hhalf

end float

section zeros

variable {x y z w : Float}

/-- The place of the zeros is taken by nothing else. -/
theorem exists_unpack_eq_zero (hx : x.isNaN = false) (h : orderKey x = 0) :
    ∃ s, x.toModel.unpack = .zero s := by
  obtain ⟨hcanonical, hkey⟩ := unpack_number hx
  rw [h] at hkey
  generalize x.toModel.unpack = u at hcanonical hkey
  cases u with
  | notANumber => cases hcanonical
  | infinity s => cases s <;> cases hkey
  | zero s => exact ⟨s, rfl⟩
  | finite s m e hm =>
      cases s with
      | negative => exact absurd hkey (key_negative hcanonical).ne
      | positive => exact absurd hkey (key_positive hcanonical).ne'

/-- A sum with a zero does not tell the sign of the zero, unless it is a sum of
zeros. -/
theorem add_zero_eq (hx : x.isNaN = false) (hzero : orderKey x = 0)
    (hy : y.isNaN = false) (hne : orderKey y ≠ 0) :
    x + y = .ofModel (.pack y.toModel.unpack) ∧
      y + x = .ofModel (.pack y.toModel.unpack) := by
  obtain ⟨s, hs⟩ := exists_unpack_eq_zero hx hzero
  obtain ⟨hcanonical, hkey⟩ := unpack_number hy
  rw [← hkey] at hne
  change Float.ofModel (.pack (UnpackedFloat.add .binary64 x.toModel.unpack y.toModel.unpack))
      = _ ∧
    Float.ofModel (.pack (UnpackedFloat.add .binary64 y.toModel.unpack x.toModel.unpack)) = _
  rw [hs]
  generalize y.toModel.unpack = u at hcanonical hne
  rcases hcanonical with t | t | ⟨t, hm, h⟩
  · exact ⟨rfl, rfl⟩
  · exact absurd rfl hne
  · exact ⟨rfl, rfl⟩

/-- Two numbers that differ have one sum, whichever of both zeros one of them is. -/
theorem add_congr_of_beq (hlt : x < y) (hx : (x == z) = true) (hy : (y == w) = true) :
    x + y = z + w := by
  obtain ⟨hxnan, hznan⟩ := isNaN_of_beq hx
  obtain ⟨hynan, hwnan⟩ := isNaN_of_beq hy
  have hxkey := orderKey_eq_of_beq hx
  have hykey := orderKey_eq_of_beq hy
  have hkey := orderKey_lt_of_lt hlt
  rcases eq_or_orderKey_eq_zero hxkey with rfl | hxzero
  · rcases eq_or_orderKey_eq_zero hykey with rfl | hyzero
    · rfl
    · have hne : orderKey x ≠ 0 := by omega
      rw [(add_zero_eq hynan hyzero hxnan hne).2,
        (add_zero_eq hwnan (hykey ▸ hyzero) hxnan hne).2]
  · have hne : orderKey y ≠ 0 := by omega
    obtain rfl := (eq_or_orderKey_eq_zero hykey).resolve_right hne
    rw [(add_zero_eq hxnan hxzero hynan hne).1,
      (add_zero_eq hznan (hxkey ▸ hxzero) hynan hne).1]

end zeros

end Credence.Number
