/-
Calculations far from overflow.  A sum, difference, product or quotient of doubles stays
below a power of two that is told by those that its parts stay below, and as long as
this is in range, it is finite.
-/
import Credence.Proofs.Number.Count

namespace Credence.Number

open Float.Model Float.Model.UnpackedFloat

/-- A difference is a sum with the opposite number. -/
theorem sub_eq_add_neg (u v : UnpackedFloat) :
    UnpackedFloat.sub .binary64 u v = UnpackedFloat.add .binary64 u v.neg := by
  cases u with
  | notANumber => rfl
  | infinity s => cases v <;> rfl
  | zero s => cases v <;> rfl
  | finite s m e hm =>
      cases v with
      | finite t n f hn =>
          cases t with
          | negative =>
              simp [UnpackedFloat.sub, UnpackedFloat.add, UnpackedFloat.neg, Sign.apply]
          | positive => rfl
      | _ => rfl

theorem rounded_neg {u : UnpackedFloat} (hu : Rounded u) :
    Rounded u.neg ∧ toRat u.neg = -toRat u := by
  rcases hu with s | ⟨s, hm, h⟩
  · exact ⟨.zero _, neg_zero.symm⟩
  · refine ⟨.finite _ hm h, ?_⟩
    cases s with
    | negative => exact (neg_neg _).symm
    | positive => rfl

theorem representable_two_pow (k : Nat) : Representable (2 ^ k) :=
  ⟨1, k, by decide, by omega, by simp⟩

theorem two_pow_le_limit {k : Nat} (hk : k ≤ 1023) : (2 : ℚ) ^ k ≤ 2 ^ (1023 : Int) := by
  rw [← zpow_natCast]
  exact zpow_le_zpow_right₀ one_le_two (by omega)

/-- A double that is no further from zero than a power of two. -/
structure Within (x : Float) (k : Nat) : Prop where
  isFinite : x.isFinite = true
  abs_le : |value x| ≤ 2 ^ k

variable {x y : Float} {k l : Nat}

/-- Rounding does not lead out of a power of two. -/
theorem within_of_nearest {z : ℚ} (h : x.isFinite = true ∧ Nearest z (value x))
    (hz : |z| ≤ 2 ^ k) : Within x k := by
  obtain ⟨hlow, hhigh⟩ := abs_le.mp hz
  refine ⟨h.1, abs_le.mpr ⟨?_, ?_⟩⟩
  · exact h.2.le_of_le (representable_two_pow k).neg hlow
  · exact h.2.ge_of_ge (representable_two_pow k) hhigh

theorem within_of_rounded {u : UnpackedFloat} {z : ℚ} (hu : Rounded u ∧ Nearest z (toRat u))
    (hmodel : x.toModel = .pack u) (hk : k ≤ 1023) (hz : |z| ≤ 2 ^ k) : Within x k := by
  have hunpack : x.toModel.unpack = clip u := by
    rw [hmodel]
    exact unpack_pack hu.1
  have hlimit := hz.trans (two_pow_le_limit hk)
  exact within_of_nearest (finite_of_nearest hu.1 hunpack hu.2 hlimit) hz

namespace Within

theorem isNaN (hx : Within x k) : x.isNaN = false := isNaN_of_isFinite hx.isFinite

theorem mono (hx : Within x k) (hkl : k ≤ l) : Within x l :=
  ⟨hx.isFinite, hx.abs_le.trans (pow_le_pow_right₀ one_le_two hkl)⟩

theorem add (hx : Within x k) (hy : Within y k) (hk : k < 1023) : Within (x + y) (k + 1) := by
  have hsum := nearest_add (rounded_unpack hx.isFinite) (rounded_unpack hy.isFinite)
  apply within_of_rounded hsum rfl hk
  calc |value x + value y| ≤ |value x| + |value y| := abs_add_le _ _
    _ ≤ 2 ^ k + 2 ^ k := add_le_add hx.abs_le hy.abs_le
    _ = 2 ^ (k + 1) := by ring

theorem sub (hx : Within x k) (hy : Within y k) (hk : k < 1023) : Within (x - y) (k + 1) := by
  obtain ⟨hneg, hvalue⟩ := rounded_neg (rounded_unpack hy.isFinite)
  have hsum := nearest_add (rounded_unpack hx.isFinite) hneg
  rw [← sub_eq_add_neg, hvalue] at hsum
  apply within_of_rounded hsum rfl hk
  calc |value x + -value y| ≤ |value x| + |-value y| := abs_add_le _ _
    _ ≤ 2 ^ k + 2 ^ k := by
        rw [abs_neg]
        exact add_le_add hx.abs_le hy.abs_le
    _ = 2 ^ (k + 1) := by ring

theorem mul (hx : Within x k) (hy : Within y l) (hkl : k + l ≤ 1023) :
    Within (x * y) (k + l) := by
  have hproduct := nearest_mul (rounded_unpack hx.isFinite) (rounded_unpack hy.isFinite)
  apply within_of_rounded hproduct rfl hkl
  calc |value x * value y| = |value x| * |value y| := abs_mul _ _
    _ ≤ 2 ^ k * 2 ^ l := mul_le_mul hx.abs_le hy.abs_le (abs_nonneg _) (by positivity)
    _ = 2 ^ (k + l) := (pow_add 2 k l).symm

/-- What is divided by one or more does not get further from zero. -/
theorem div (hx : Within x k) (hy : y.isFinite = true) (hone : 1 ≤ value y)
    (hk : k ≤ 1023) : Within (x / y) k := by
  have hquotient : |value x / value y| ≤ 2 ^ k := by
    rw [abs_div, abs_of_pos (one_pos.trans_le hone)]
    exact (div_le_self (abs_nonneg _) hone).trans hx.abs_le
  have hmodel : (x / y).toModel =
      .pack (UnpackedFloat.div .binary64 x.toModel.unpack y.toModel.unpack) := rfl
  have hrounded := rounded_unpack hy
  rw [value] at hone
  rw [value, value] at hquotient
  generalize y.toModel.unpack = v at hone hquotient hmodel hrounded
  rcases hrounded with s | @⟨s, n, f, hn, -⟩
  · exact absurd hone (not_le.mpr one_pos)
  · have hdiv := nearest_div (rounded_unpack hx.isFinite) s (f := f) hn
    exact within_of_rounded hdiv hmodel hk hquotient

end Within

section counts

variable {n : Nat} (hn : n ≤ 2 ^ k) (hk : k ≤ 1023)

include hn

theorem abs_natCast_le_two_pow : |(n : ℚ)| ≤ 2 ^ k := by
  rw [Nat.abs_cast]
  exact_mod_cast hn

include hk

theorem within_ofNat : Within (Float.ofNat n) k := by
  have hlimit := (abs_natCast_le_two_pow hn).trans (two_pow_le_limit hk)
  exact within_of_nearest (nearest_value_ofNat hlimit) (abs_natCast_le_two_pow hn)

/-- Counts above zero are one or more as doubles as well. -/
theorem one_le_value_ofNat (hpos : 0 < n) : 1 ≤ value (Float.ofNat n) := by
  have hlimit := (abs_natCast_le_two_pow hn).trans (two_pow_le_limit hk)
  apply (nearest_value_ofNat hlimit).2.le_of_le representable_one
  exact_mod_cast hpos

end counts

theorem within_zero (k : Nat) : Within 0.0 k := by
  refine ⟨by decide +kernel, ?_⟩
  have hvalue : value 0.0 = 0 := rfl
  rw [hvalue, abs_zero]
  positivity

theorem within_one : Within 1.0 0 := by
  refine ⟨by decide +kernel, ?_⟩
  rw [value_one, abs_one, pow_zero]

end Credence.Number
