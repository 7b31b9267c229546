/-
How far rounding goes.  A number that is rounded moves by half of a unit at most,
where units are those of the largest numbers in its range, and by no more than its
own share of them.  What lies below a number that has all its bits lies a whole unit
below.
-/
import Mathlib.Algebra.Order.Archimedean.Basic
import Mathlib.Algebra.Order.Round
import Mathlib.Tactic.NormNum
import Credence.Proofs.Number.Arithmetic

namespace Credence.Number

variable {x r : ℚ} {e : Int}

/-- Whole units are numbers that can be held, up to the first one too many. -/
theorem representable_units {k : Int} (hk : |k| ≤ 2 ^ 53) (he : -1074 ≤ e) :
    Representable (k * 2 ^ e) := by
  obtain ⟨hlow, hhigh⟩ := abs_le.mp hk
  by_cases hlt : k.natAbs < 2 ^ 53
  · exact ⟨k, e, hlt, he, rfl⟩
  · have htwice : Representable ((2 : Int) ^ 52 * 2 ^ (e + 1) : ℚ) :=
      ⟨2 ^ 52, e + 1, by decide, by omega, by push_cast; rfl⟩
    have hfull : ((2 : Int) ^ 52 * 2 ^ (e + 1) : ℚ) = 2 ^ 53 * 2 ^ e := by
      rw [zpow_add_one₀ two_ne_zero]
      push_cast
      ring
    rw [hfull] at htwice
    rcases (by omega : k = 2 ^ 53 ∨ k = -2 ^ 53) with rfl | rfl
    · push_cast
      exact htwice
    · push_cast
      rw [neg_mul]
      exact htwice.neg

/-- A number moves by half of a unit at most. -/
theorem Nearest.abs_sub_le (h : Nearest x r) (he : -1074 ≤ e)
    (hx : |x| ≤ 2 ^ 53 * 2 ^ e) : |r - x| ≤ 2 ^ e / 2 := by
  have hunit : (0 : ℚ) < 2 ^ e := zpow_pos two_pos e
  have hround : |(round (x / 2 ^ e) : ℚ) - x / 2 ^ e| ≤ 1 / 2 := by
    rw [abs_sub_comm]
    exact abs_sub_round _
  have hmany : |x / 2 ^ e| ≤ 2 ^ 53 := by
    rw [abs_div, abs_of_pos hunit]
    exact (div_le_iff₀ hunit).mpr hx
  have hk : |round (x / 2 ^ e)| ≤ 2 ^ 53 := by
    have hlt : |(round (x / 2 ^ e) : ℚ)| < 2 ^ 53 + 1 := by
      have htriangle := abs_sub_abs_le_abs_sub (round (x / 2 ^ e) : ℚ) (x / 2 ^ e)
      linarith
    have hlt' : |round (x / 2 ^ e)| < 2 ^ 53 + 1 := by exact_mod_cast hlt
    omega
  calc |r - x| ≤ |round (x / 2 ^ e) * 2 ^ e - x| :=
        h.le _ (representable_units hk he)
    _ = |(round (x / 2 ^ e) : ℚ) - x / 2 ^ e| * 2 ^ e := by
        rw [← abs_of_pos hunit, ← abs_mul, abs_of_pos hunit, sub_mul,
          div_mul_cancel₀ x hunit.ne']
    _ ≤ 1 / 2 * 2 ^ e := mul_le_mul_of_nonneg_right hround hunit.le
    _ = 2 ^ e / 2 := by ring

theorem Nearest.abs_sub_le_of_le_one (h : Nearest x r) (hx : 0 ≤ x) (hx1 : x ≤ 1) :
    |r - x| ≤ 2 ^ (-53 : Int) / 2 := by
  apply h.abs_sub_le (by decide)
  rw [abs_of_nonneg hx]
  norm_num
  exact hx1

/-- A number that is not too small moves by its own share of a unit at most. -/
theorem Nearest.abs_sub_le_mul (h : Nearest x r) (hx : 2 ^ (-1022 : Int) ≤ x) :
    |r - x| ≤ x / 2 ^ 53 := by
  have hpos : 0 < x := (zpow_pos two_pos _).trans_le hx
  obtain ⟨k, hlow, hhigh⟩ := exists_mem_Ico_zpow hpos (one_lt_two : (1 : ℚ) < 2)
  have hk : -1022 ≤ k := by
    by_contra hnot
    have := zpow_le_zpow_right₀ (one_le_two : (1 : ℚ) ≤ 2) (by omega : k + 1 ≤ -1022)
    linarith
  have hunits (j : Nat) : (2 : ℚ) ^ j * 2 ^ (k - 52) = 2 ^ (k - 52 + j) := by
    rw [zpow_add₀ two_ne_zero, zpow_natCast, mul_comm]
  have habs : |x| ≤ 2 ^ 53 * 2 ^ (k - 52) := by
    rw [abs_of_pos hpos, hunits, show k - 52 + (53 : Nat) = k + 1 by omega]
    exact hhigh.le
  calc |r - x| ≤ 2 ^ (k - 52) / 2 := h.abs_sub_le (by omega) habs
    _ = 2 ^ 52 * 2 ^ (k - 52) / 2 ^ 53 := by ring
    _ = 2 ^ k / 2 ^ 53 := by rw [hunits, show k - 52 + (52 : Nat) = k by omega]
    _ ≤ x / 2 ^ 53 := div_le_div_of_nonneg_right hlow (by positivity)

/-- Below a number of so many units there is nothing for a whole unit. -/
theorem Representable.le_sub_unit {y : ℚ} (hy : Representable y) {k : Int}
    (hk : 2 ^ 52 < k) (h : y < k * 2 ^ e) : y ≤ k * 2 ^ e - 2 ^ e := by
  have hunit : (0 : ℚ) < 2 ^ e := zpow_pos two_pos e
  obtain ⟨n, f, hn, -, rfl⟩ := hy
  have hunits : (k : ℚ) * 2 ^ e - 2 ^ e = (k - 1 : Int) * 2 ^ e := by
    push_cast
    ring
  rw [hunits]
  by_cases hfe : e ≤ f
  · rw [mul_zpow_of_le hfe] at h ⊢
    have hlt : n * 2 ^ (f - e).toNat < k := by
      exact_mod_cast lt_of_mul_lt_mul_right h hunit.le
    apply mul_le_mul_of_nonneg_right _ hunit.le
    exact_mod_cast (by omega : n * 2 ^ (f - e).toNat ≤ k - 1)
  · have hk' : (2 : ℚ) ^ 52 ≤ (k - 1 : Int) := by
      exact_mod_cast (by omega : 2 ^ 52 ≤ k - 1)
    exact (mul_zpow_le_of_lt hn (not_le.mp hfe)).trans
      (mul_le_mul_of_nonneg_right hk' hunit.le)

/-- The units in which a count has all bits that there are. -/
theorem exists_unit {n : Nat} (hn : 0 < n) :
    ∃ e : Int, -53 ≤ e ∧ 2 ^ 52 * 2 ^ e < (n : ℚ) ∧ (n : ℚ) ≤ 2 ^ 53 * 2 ^ e := by
  have hone : (1 : ℚ) ≤ n := by exact_mod_cast hn
  obtain ⟨j, hlow, hhigh⟩ :=
    exists_mem_Ioc_zpow (one_pos.trans_le hone) (one_lt_two : (1 : ℚ) < 2)
  have hj : 0 ≤ j + 1 := by
    have hle : (2 : ℚ) ^ (0 : Int) ≤ 2 ^ (j + 1) := by
      rw [zpow_zero]
      exact hone.trans hhigh
    exact (zpow_le_zpow_iff_right₀ (one_lt_two : (1 : ℚ) < 2)).mp hle
  have hunits (i : Nat) : (2 : ℚ) ^ i * 2 ^ (j - 52) = 2 ^ (j - 52 + i) := by
    rw [zpow_add₀ two_ne_zero, zpow_natCast, mul_comm]
  refine ⟨j - 52, by omega, ?_, ?_⟩
  · rw [hunits, show j - 52 + (52 : Nat) = j by omega]
    exact hlow
  · rw [hunits, show j - 52 + (53 : Nat) = j + 1 by omega]
    exact hhigh

/-- As long as these units are fractions, there is a whole number of them. -/
theorem exists_eq_units {n : Nat} (hlow : 2 ^ 52 * 2 ^ e < (n : ℚ))
    (hhigh : (n : ℚ) ≤ 2 ^ 53 * 2 ^ e) (hmax : n < 2 ^ 52) :
    ∃ k : Int, (n : ℚ) = k * 2 ^ e ∧ 2 ^ 52 < k ∧ k ≤ 2 ^ 53 := by
  have hunit : (0 : ℚ) < 2 ^ e := zpow_pos two_pos e
  have hfraction : e < 0 := by
    have hmax' : (n : ℚ) < 2 ^ 52 := by exact_mod_cast hmax
    have hlt : (2 : ℚ) ^ e < 2 ^ (0 : Int) := by
      rw [zpow_zero]
      linarith
    exact (zpow_lt_zpow_iff_right₀ one_lt_two).mp hlt
  have hvalue : (n : ℚ) = (n * 2 ^ (-e).toNat : Int) * 2 ^ e := by
    push_cast
    rw [mul_assoc, ← zpow_natCast, Int.toNat_of_nonneg (by omega),
      ← zpow_add₀ two_ne_zero, Int.add_left_neg, zpow_zero, mul_one]
  rw [hvalue] at hlow hhigh
  refine ⟨n * 2 ^ (-e).toNat, hvalue, ?_, ?_⟩
  · exact_mod_cast lt_of_mul_lt_mul_right hlow hunit.le
  · exact_mod_cast le_of_mul_le_mul_right hhigh hunit

end Credence.Number
