/-
How doubles are rounded.  What is calculated exactly is written as a significand with
two further bits, shifted until it fits, and rounded to whole units.  What comes out
is a number nearest to the exact one among those that a significand of 53 bits holds.
-/
import Mathlib.Algebra.Order.Field.Basic
import Mathlib.Data.Rat.Cast.Order
import Mathlib.Tactic.Linarith
import Mathlib.Tactic.FieldSimp
import Mathlib.Tactic.Ring
import Mathlib.Tactic.Positivity
import Credence.Proofs.Number.Order

namespace Credence.Number

open Float.Model Float.Model.UnpackedFloat

/-- How many halves a significand counts together with the bit behind it. -/
def halves (em : ExtendedMantissa) : Nat := 2 * em.mantissa + em.roundBit.toNat

theorem halves_lt (em : ExtendedMantissa) : halves em < 2 * em.mantissa + 2 := by
  have := Bool.toNat_le em.roundBit
  rw [halves]
  omega

theorem halves_shiftRightOne (em : ExtendedMantissa) :
    halves em.shiftRightOne = em.mantissa := by
  rw [halves, ExtendedMantissa.shiftRightOne]
  rcases Nat.mod_two_eq_zero_or_one em.mantissa with hm | hm
  · simp [hm]
    omega
  · simp [hm]
    omega

/-- A number lies where a significand with its two further bits says: from the last
half that is counted up to the next one, and strictly in between just if the last bit
is set. -/
structure Stands (em : ExtendedMantissa) (x : ℚ) : Prop where
  le : (halves em : ℚ) ≤ 2 * x
  lt : 2 * x < halves em + 1
  eq_iff : 2 * x = halves em ↔ em.stickyBit = false

namespace Stands

variable {em : ExtendedMantissa} {x : ℚ}

theorem exact (m : Nat) : Stands (.ofMantissaAndAccuracy m .exact) m := by
  have hhalves : (halves (.ofMantissaAndAccuracy m .exact) : ℚ) = 2 * m := by
    simp [halves, ExtendedMantissa.ofMantissaAndAccuracy]
  refine ⟨hhalves.le, ?_, iff_of_true hhalves.symm rfl⟩
  rw [hhalves]
  exact lt_add_one _

theorem mantissa_le (h : Stands em x) : em.mantissa ≤ x := by
  have hle : ((2 * em.mantissa : Nat) : ℚ) ≤ halves em :=
    Nat.cast_le.mpr (Nat.le_add_right _ _)
  push_cast at hle
  linarith [h.le]

theorem lt_mantissa_add_one (h : Stands em x) : x < em.mantissa + 1 := by
  have hlt : ((halves em + 1 : Nat) : ℚ) ≤ (2 * em.mantissa + 2 : Nat) :=
    Nat.cast_le.mpr (halves_lt em)
  push_cast at hlt
  linarith [h.lt]

/-- The bit that is shifted out becomes the next half, and the last bit remembers
whether there was anything behind. -/
theorem shiftRightOne (h : Stands em x) : Stands em.shiftRightOne (x / 2) := by
  have htwice : 2 * (x / 2) = x := mul_div_cancel₀ x two_ne_zero
  constructor
  · rw [halves_shiftRightOne, htwice]
    exact h.mantissa_le
  · rw [halves_shiftRightOne, htwice]
    exact h.lt_mantissa_add_one
  · rw [halves_shiftRightOne, htwice]
    have hle := h.le
    have hiff := h.eq_iff
    rcases em with ⟨m, _ | _, s⟩
    · have hhalves : (halves ⟨m, false, s⟩ : ℚ) = 2 * m := by simp [halves]
      rw [hhalves, mul_right_inj' two_ne_zero] at hiff
      exact hiff
    · have hhalves : (halves ⟨m, true, s⟩ : ℚ) = 2 * m + 1 := by simp [halves]
      rw [hhalves] at hle
      refine iff_of_false ?_ (by simp [ExtendedMantissa.shiftRightOne])
      intro hx
      change x = m at hx
      linarith

theorem shiftRight (h : Stands em x) (n : Nat) : Stands (em >>> n) (x / 2 ^ n) := by
  change Stands (n.repeat ExtendedMantissa.shiftRightOne em) (x / 2 ^ n)
  induction n with
  | zero =>
      rw [pow_zero, div_one]
      exact h
  | succ n ih =>
      rw [pow_succ, ← div_div]
      exact ih.shiftRightOne

theorem mantissa_shiftRight (em : ExtendedMantissa) (n : Nat) :
    (em >>> n).mantissa = em.mantissa / 2 ^ n := by
  change (n.repeat ExtendedMantissa.shiftRightOne em).mantissa = em.mantissa / 2 ^ n
  induction n with
  | zero => exact (Nat.div_one em.mantissa).symm
  | succ n ih =>
      rw [pow_succ, ← Nat.div_div_eq_div_mul, ← ih]
      rfl

theorem rounded_bounds (em : ExtendedMantissa) : em.mantissa ≤ em.roundedMantissa ∧
    em.roundedMantissa ≤ em.mantissa + 1 := by
  rcases em with ⟨m, _ | _, _ | _⟩
  · exact ⟨Nat.le_refl m, Nat.le_succ m⟩
  · exact ⟨Nat.le_refl m, Nat.le_succ m⟩
  · change m ≤ m + m % 2 ∧ m + m % 2 ≤ m + 1
    omega
  · exact ⟨Nat.le_succ m, Nat.le_refl _⟩

/-- Rounding goes to a whole number that is at most half of one away. -/
theorem abs_rounded_sub_le (h : Stands em x) :
    |(em.roundedMantissa : ℚ) - x| ≤ 1 / 2 := by
  have hle := h.le
  have hlt := h.lt
  have hiff := h.eq_iff
  rw [abs_le]
  rcases em with ⟨m, _ | _, s⟩
  · have hhalves : (halves ⟨m, false, s⟩ : ℚ) = 2 * m := by simp [halves]
    have hrounded : ExtendedMantissa.roundedMantissa ⟨m, false, s⟩ = m := by
      cases s <;> rfl
    rw [hhalves] at hle hlt
    rw [hrounded]
    constructor
    · linarith
    · linarith
  · have hhalves : (halves ⟨m, true, s⟩ : ℚ) = 2 * m + 1 := by simp [halves]
    rw [hhalves] at hle hlt hiff
    obtain ⟨hlow, hhigh⟩ := rounded_bounds ⟨m, true, s⟩
    have hlow' : (m : ℚ) ≤ ExtendedMantissa.roundedMantissa ⟨m, true, s⟩ := by
      exact_mod_cast hlow
    have hhigh' : (ExtendedMantissa.roundedMantissa ⟨m, true, s⟩ : ℚ) ≤ m + 1 := by
      exact_mod_cast hhigh
    rcases s with _ | _
    · -- a tie: both neighbours are half of one away
      have htie := hiff.mpr rfl
      constructor
      · linarith
      · linarith
    · have hup : ExtendedMantissa.roundedMantissa ⟨m, true, true⟩ = m + 1 := rfl
      rw [hup]
      push_cast
      constructor
      · linarith
      · linarith

end Stands

/-- The numbers that a significand of 53 bits can hold, with no exponent too large. -/
def Representable (x : ℚ) : Prop :=
  ∃ (m e : Int), m.natAbs < 2 ^ 53 ∧ -1074 ≤ e ∧ x = m * 2 ^ e

/-- No number that can be held is nearer. -/
structure Nearest (x r : ℚ) : Prop where
  representable : Representable r
  le : ∀ y, Representable y → |r - x| ≤ |y - x|

theorem representable_zero : Representable 0 := ⟨0, 0, by decide, by decide, by simp⟩

theorem representable_one : Representable 1 := ⟨1, 0, by decide, by decide, by simp⟩

theorem Representable.neg {x : ℚ} (h : Representable x) : Representable (-x) := by
  obtain ⟨m, e, hm, he, rfl⟩ := h
  refine ⟨-m, e, by rwa [Int.natAbs_neg], he, ?_⟩
  push_cast
  ring

theorem Nearest.neg {x r : ℚ} (h : Nearest x r) : Nearest (-x) (-r) where
  representable := h.representable.neg
  le := by
    intro y hy
    have hr : |-r - -x| = |r - x| := by rw [neg_sub_neg, abs_sub_comm]
    have hy' : |y - -x| = |-y - x| := by rw [← abs_neg, neg_sub, neg_sub_comm]
    rw [hr, hy']
    exact h.le (-y) hy.neg

/-- Of all whole numbers, none is nearer than one that is half of one away. -/
theorem abs_sub_le_of_half {z : ℚ} {r : Nat} (hr : |(r : ℚ) - z| ≤ 1 / 2) (k : Int) :
    |(r : ℚ) - z| ≤ |(k : ℚ) - z| := by
  by_cases hk : k = r
  · rw [hk]
    exact le_of_eq rfl
  · have hone : (1 : ℚ) ≤ |(k : ℚ) - r| := by
      have : 1 ≤ |k - (r : Int)| := Int.one_le_abs (sub_ne_zero.mpr hk)
      exact_mod_cast this
    have htriangle := abs_sub_le (k : ℚ) z r
    rw [abs_sub_comm z] at htriangle
    linarith

section grid

variable {z : ℚ} {e f n : Int} {r : Nat}

/-- Larger units are counted by smaller ones. -/
theorem mul_zpow_of_le (h : e ≤ f) :
    (n : ℚ) * 2 ^ f = (n * 2 ^ (f - e).toNat : Int) * 2 ^ e := by
  push_cast
  rw [mul_assoc, ← zpow_natCast, Int.toNat_of_nonneg (by omega),
    ← zpow_add₀ two_ne_zero, Int.sub_add_cancel]

/-- What has smaller units lies below `2 ^ 52` larger ones. -/
theorem mul_zpow_le_of_lt (hn : n.natAbs < 2 ^ 53) (h : f < e) :
    (n : ℚ) * 2 ^ f ≤ 2 ^ 52 * 2 ^ e := by
  have hn' : (n : ℚ) ≤ 2 ^ 53 := by
    have : n ≤ 2 ^ 53 := by omega
    exact_mod_cast this
  calc (n : ℚ) * 2 ^ f ≤ 2 ^ 53 * 2 ^ (e - 1) :=
        mul_le_mul hn' (zpow_le_zpow_right₀ one_le_two (by omega))
          (zpow_pos two_pos f).le (by positivity)
    _ = 2 ^ 52 * 2 ^ e := by
        rw [zpow_sub_one₀ two_ne_zero]
        ring

/-- Rounding to whole units finds a nearest number, if the units are as small as
they may be or if there are so many that no smaller ones fit. -/
theorem nearest_of_half (he : -1074 ≤ e) (hr : |(r : ℚ) - z| ≤ 1 / 2)
    (hle : r ≤ 2 ^ 53) (hfull : e = -1074 ∨ 2 ^ 52 ≤ z) :
    Nearest (z * 2 ^ e) (r * 2 ^ e) := by
  have hunit : (0 : ℚ) < 2 ^ e := zpow_pos two_pos e
  have hgrid (k : Int) : |(r : ℚ) * 2 ^ e - z * 2 ^ e| ≤ |k * 2 ^ e - z * 2 ^ e| := by
    rw [← sub_mul, ← sub_mul, abs_mul, abs_mul]
    exact mul_le_mul_of_nonneg_right (abs_sub_le_of_half hr k) (abs_nonneg _)
  constructor
  · rcases hle.lt_or_eq with hlt | rfl
    · exact ⟨r, e, hlt, he, by push_cast; rfl⟩
    · refine ⟨2 ^ 52, e + 1, by decide, by omega, ?_⟩
      rw [zpow_add_one₀ two_ne_zero]
      push_cast
      ring
  · rintro y ⟨n, f, hn, hf, rfl⟩
    by_cases hfe : e ≤ f
    · rw [mul_zpow_of_le hfe]
      exact hgrid _
    · have hmany := hfull.resolve_left (by omega)
      have hbelow := mul_zpow_le_of_lt hn (not_le.mp hfe)
      have habove : (2 : ℚ) ^ 52 * 2 ^ e ≤ z * 2 ^ e :=
        mul_le_mul_of_nonneg_right hmany hunit.le
      apply (hgrid (2 ^ 52)).trans
      push_cast
      rw [abs_of_nonpos (by linarith), abs_of_nonpos (by linarith)]
      linarith

end grid

section round

def signed (s : Sign) (x : ℚ) : ℚ :=
  match s with
  | .negative => -x
  | .positive => x

theorem signed_zero (s : Sign) : signed s 0 = 0 := by
  cases s with
  | negative => exact neg_zero
  | positive => rfl

theorem Nearest.signed {x r : ℚ} (h : Nearest x r) (s : Sign) :
    Nearest (signed s x) (signed s r) := by
  cases s with
  | negative => exact h.neg
  | positive => exact h

/-- The number that is calculated with; zero for what is no finite number. -/
def toRat : UnpackedFloat → ℚ
  | .finite s m e _ => signed s (m * 2 ^ e)
  | _ => 0

/-- What comes out of rounding, before it is known whether it is in range. -/
inductive Rounded : UnpackedFloat → Prop
  | zero (s : Sign) : Rounded (.zero s)
  | finite (s : Sign) {m : Nat} {e : Int} (hm : 0 < m) (h : Trimmed m e) :
      Rounded (.finite s m e hm)

/-- How many bits of a significand do not fit. -/
def excess (m : Nat) (e : Int) : Nat := (max (m.log2 + e - 52) (-1074) - e).toNat

variable (m : Nat) (e : Int)

/-- The exponent that rounding aims at. -/
theorem targetExponent_eq : Format.binary64.targetExponent (totalExponent m e) =
    max (m.log2 + e - 52) (-1074) := by
  change max (((m.log2 : Int) + 1 + e) - 53) (-1074) = _
  congr 1
  omega

theorem shiftToTargetExponent_eq (a : Accuracy) :
    shiftToTargetExponent .binary64 m e a =
      (ExtendedMantissa.ofMantissaAndAccuracy m a >>> excess m e, e + excess m e) := by
  rw [shiftToTargetExponent, targetExponent_eq]
  rfl

theorem min_le_add_excess : -1074 ≤ e + excess m e := by
  rw [excess]
  omega

theorem div_excess_lt : m / 2 ^ excess m e < 2 ^ 53 := by
  rw [Nat.div_lt_iff_lt_mul (by positivity), ← pow_add]
  have hlog : m.log2 + 1 ≤ 53 + excess m e := by
    rw [excess]
    omega
  exact Nat.lt_log2_self.trans_le (Nat.pow_le_pow_right two_pos hlog)

/-- Nothing is left out of a significand that had enough bits. -/
theorem full_excess (hfine : 52 ≤ m.log2 ∨ e ≤ -1074) :
    2 ^ 52 ≤ m / 2 ^ excess m e ∨ e + excess m e = -1074 := by
  by_cases hmin : e + excess m e = -1074
  · exact Or.inr hmin
  · left
    have hlog : m.log2 = 52 + excess m e := by
      rw [excess] at hmin ⊢
      omega
    have hne : m ≠ 0 := by
      rintro rfl
      rw [Nat.log2_zero] at hlog
      omega
    rw [Nat.le_div_iff_mul_le (by positivity), ← pow_add, ← hlog]
    exact Nat.log2_self_le hne

theorem shiftToTargetExponent_of_lt (hm : m < 2 ^ 53) (he : -1074 ≤ e) :
    shiftToTargetExponent .binary64 m e .exact =
      (⟨m, false, false⟩, e) := by
  have hlog : m.log2 ≤ 52 := by
    by_cases hne : m = 0
    · rw [hne, Nat.log2_zero]
      omega
    · have := (Nat.log2_lt hne).mpr hm
      omega
  have hexcess : excess m e = 0 := by
    rw [excess]
    omega
  rw [shiftToTargetExponent_eq, hexcess, Nat.cast_zero, Int.add_zero]
  rfl

theorem shiftToTargetExponent_two_pow (he : -1074 ≤ e) :
    shiftToTargetExponent .binary64 (2 ^ 53) e .exact =
      (⟨2 ^ 52, false, false⟩, e + 1) := by
  have hexcess : excess (2 ^ 53) e = 1 := by
    rw [excess, Nat.log2_two_pow]
    omega
  rw [shiftToTargetExponent_eq, hexcess]
  rfl

/-- Rounding to the nearest number, from a significand that is not too short and its
two further bits. -/
theorem nearest_roundWithAccuracy {m : Nat} {e : Int} {a : Accuracy} {z : ℚ} (s : Sign)
    (hstands : Stands (.ofMantissaAndAccuracy m a) z)
    (hfine : 52 ≤ m.log2 ∨ e ≤ -1074) :
    Rounded (roundWithAccuracy .binary64 s m e a) ∧
      Nearest (signed s (z * 2 ^ e)) (toRat (roundWithAccuracy .binary64 s m e a)) := by
  have hmin := min_le_add_excess m e
  have hshifted := hstands.shiftRight (excess m e)
  have hmantissa : (ExtendedMantissa.ofMantissaAndAccuracy m a >>> excess m e).mantissa =
      m / 2 ^ excess m e := by
    rw [Stands.mantissa_shiftRight]
    rcases a with _ | _ | _ | _ <;> rfl
  have hlt := div_excess_lt m e
  have hfull := full_excess m e hfine
  rw [← hmantissa] at hlt hfull
  have hvalue : z * 2 ^ e = z / 2 ^ excess m e * 2 ^ (e + excess m e) := by
    rw [zpow_add₀ two_ne_zero, zpow_natCast]
    field_simp
  rw [roundWithAccuracy, shiftToTargetExponent_eq, hvalue]
  generalize (ExtendedMantissa.ofMantissaAndAccuracy m a >>> excess m e) = em at *
  generalize e + excess m e = f at *
  obtain ⟨hlow, hhigh⟩ := Stands.rounded_bounds em
  have hmany (h : 2 ^ 52 ≤ em.mantissa) : 2 ^ 52 ≤ z / 2 ^ excess m e := by
    apply le_trans _ hshifted.mantissa_le
    exact_mod_cast h
  have hnearest := nearest_of_half hmin hshifted.abs_rounded_sub_le (by omega)
    (hfull.symm.imp_right hmany)
  have hsigned := hnearest.signed s
  rcases (Nat.le_of_lt_succ (by omega) : em.roundedMantissa ≤ 2 ^ 53).lt_or_eq with
    hroom | hcarry
  · simp only [shiftToTargetExponent_of_lt _ f hroom hmin]
    split
    · next hzero =>
        rw [hzero, Nat.cast_zero, zero_mul, signed_zero] at hsigned
        exact ⟨.zero s, hsigned⟩
    · next hne =>
        refine ⟨.finite s _ ⟨hroom, hmin, hfull.imp_left fun h => h.trans hlow⟩, hsigned⟩
  · -- the carry takes one more bit, which is zero
    simp only [hcarry, shiftToTargetExponent_two_pow f hmin]
    refine ⟨.finite s _ ⟨by decide, by omega, Or.inl (Nat.le_refl _)⟩, ?_⟩
    have hsame : (em.roundedMantissa : ℚ) * 2 ^ f = (2 ^ 52 : Nat) * 2 ^ (f + 1) := by
      rw [hcarry, zpow_add_one₀ two_ne_zero]
      push_cast
      ring
    rw [hsame] at hsigned
    exact hsigned

end round

theorem Nearest.refl {x : ℚ} (h : Representable x) : Nearest x x where
  representable := h
  le := by
    intro y _
    rw [sub_self, abs_zero]
    exact abs_nonneg _

theorem Nearest.eq_of_representable {x r : ℚ} (h : Nearest x r)
    (hx : Representable x) : r = x := by
  have hle := h.le x hx
  rw [sub_self, abs_zero] at hle
  exact sub_eq_zero.mp (abs_nonpos_iff.mp hle)

theorem Trimmed.representable {m : Nat} {e : Int} (h : Trimmed m e) (s : Sign) :
    Representable (signed s (m * 2 ^ e)) := by
  have hpos : Representable ((m : ℚ) * 2 ^ e) := ⟨m, e, h.lt, h.min_le, by push_cast; rfl⟩
  cases s with
  | negative => exact hpos.neg
  | positive => exact hpos

theorem Rounded.representable {u : UnpackedFloat} (h : Rounded u) :
    Representable (toRat u) := by
  rcases h with s | ⟨s, hm, h⟩
  · exact ⟨0, 0, by decide, by decide, by simp [toRat]⟩
  · exact h.representable s

section sum

/-- Smaller units, of which there are more. -/
theorem shiftLeft_mul_zpow (m : Nat) (e target : Int) (h : target ≤ e) :
    ((m <<< (e - target).toNat : Nat) : ℚ) * 2 ^ target = m * 2 ^ e := by
  rw [Nat.shiftLeft_eq]
  push_cast
  rw [mul_assoc, ← zpow_natCast, Int.toNat_of_nonneg (by omega), ← zpow_add₀ two_ne_zero,
    Int.sub_add_cancel]

theorem log2_shiftLeft {m : Nat} (hm : m ≠ 0) (k : Nat) :
    (m <<< k).log2 = m.log2 + k := by
  rw [Nat.shiftLeft_eq, Nat.log2_eq_iff (Nat.mul_ne_zero hm (by positivity)), pow_add,
    Nat.add_right_comm, pow_add]
  constructor
  · exact Nat.mul_le_mul_right _ (Nat.log2_self_le hm)
  · exact Nat.mul_lt_mul_of_pos_right Nat.lt_log2_self (by positivity)

theorem nearest_round {m : Nat} (hm : 0 < m) (e : Int) (s : Sign) :
    Rounded (UnpackedFloat.round .binary64 s m e) ∧
      Nearest (signed s (m * 2 ^ e)) (toRat (UnpackedFloat.round .binary64 s m e)) := by
  rw [UnpackedFloat.round, targetExponent_eq]
  simp only [decreaseExponent]
  generalize hk : (e - max (m.log2 + e - 52) (-1074)).toNat = k
  have hvalue : ((m <<< k : Nat) : ℚ) * 2 ^ (e - k) = m * 2 ^ e := by
    have h := shiftLeft_mul_zpow m e (e - k) (by omega)
    rwa [show (e - (e - k)).toNat = k by omega] at h
  have hlog := log2_shiftLeft hm.ne' k
  rw [← hvalue]
  apply nearest_roundWithAccuracy s (Stands.exact _)
  omega

theorem nearest_normalize (m e : Int) (s : Sign) :
    Rounded (UnpackedFloat.normalize .binary64 m e s) ∧
      Nearest (m * 2 ^ e) (toRat (UnpackedFloat.normalize .binary64 m e s)) := by
  rw [UnpackedFloat.normalize]
  rcases Int.lt_trichotomy m 0 with hneg | rfl | hpos
  · rw [Int.compare_eq_lt.mpr hneg]
    have hround := nearest_round (m := (-m).toNat) (by omega) e .negative
    have hcast : (((-m).toNat : Nat) : ℚ) = -m := by
      rw [← Int.cast_natCast, Int.toNat_of_nonneg (by omega), Int.cast_neg]
    rwa [hcast, signed, neg_mul, neg_neg] at hround
  · rw [Int.compare_eq_eq.mpr rfl, Int.cast_zero, zero_mul]
    exact ⟨.zero s, .refl (Rounded.zero s).representable⟩
  · rw [Int.compare_eq_gt.mpr hpos]
    have hround := nearest_round (m := m.toNat) (by omega) e .positive
    have hcast : ((m.toNat : Nat) : ℚ) = m := by
      rw [← Int.cast_natCast, Int.toNat_of_nonneg (by omega)]
    rwa [hcast] at hround

theorem signed_apply (s : Sign) (m : Nat) (e : Int) :
    ((s.apply m : Int) : ℚ) * 2 ^ e = signed s (m * 2 ^ e) := by
  cases s with
  | negative =>
      simp only [Sign.apply, signed]
      push_cast
      ring
  | positive => simp only [Sign.apply, signed, Int.cast_natCast]

/-- A sum is rounded to a nearest number. -/
theorem nearest_add {u v : UnpackedFloat} (hu : Rounded u) (hv : Rounded v) :
    Rounded (UnpackedFloat.add .binary64 u v) ∧
      Nearest (toRat u + toRat v) (toRat (UnpackedFloat.add .binary64 u v)) := by
  rcases hu with s | ⟨s, hm, hu⟩
  · rcases hv with t | ⟨t, hn, hv⟩
    · have hzero : toRat (.zero s) + toRat (.zero t) = 0 := add_zero 0
      rw [hzero, UnpackedFloat.add]
      split
      · exact ⟨.zero s, .refl (Rounded.zero s).representable⟩
      · exact ⟨.zero _, .refl (Rounded.zero s).representable⟩
    · have hzero (x : ℚ) : toRat (.zero s) + x = x := zero_add x
      rw [hzero]
      exact ⟨.finite t hn hv, .refl (hv.representable t)⟩
  · rcases hv with t | ⟨t, hn, hv⟩
    · have hzero (x : ℚ) : x + toRat (.zero t) = x := add_zero x
      rw [hzero]
      exact ⟨.finite s hm hu, .refl (hu.representable s)⟩
    · simp only [UnpackedFloat.add, decreaseExponent, toRat]
      rw [← shiftLeft_mul_zpow _ _ _ (Int.min_le_left _ _), ← signed_apply,
        ← shiftLeft_mul_zpow _ _ _ (Int.min_le_right _ _), ← signed_apply, ← add_mul,
        ← Int.cast_add]
      exact nearest_normalize _ _ _

end sum

section product

theorem signed_mul (s t : Sign) (x y : ℚ) :
    signed s x * signed t y = signed (s * t) (x * y) := by
  cases s <;> cases t
  · exact neg_mul_neg x y
  · exact neg_mul x y
  · exact mul_neg x y
  · rfl

/-- A product has enough bits, or units that are as small as they may be. -/
theorem fine_mul {m n : Nat} {e f : Int} (hm : 0 < m) (hn : 0 < n)
    (hme : Trimmed m e) (hnf : Trimmed n f) :
    52 ≤ (m * n).log2 ∨ e + f ≤ -1074 := by
  rcases hme.full with hm52 | he
  · left
    rw [Nat.le_log2 (Nat.mul_pos hm hn).ne']
    exact hm52.trans (Nat.le_mul_of_pos_right m hn)
  · rcases hnf.full with hn52 | hf
    · left
      rw [Nat.le_log2 (Nat.mul_pos hm hn).ne']
      exact hn52.trans (Nat.le_mul_of_pos_left n hm)
    · right
      omega

/-- A product is rounded to a nearest number. -/
theorem nearest_mul {u v : UnpackedFloat} (hu : Rounded u) (hv : Rounded v) :
    Rounded (UnpackedFloat.mul .binary64 u v) ∧
      Nearest (toRat u * toRat v) (toRat (UnpackedFloat.mul .binary64 u v)) := by
  rcases hu with s | @⟨s, m, e, hm, hu⟩
  · have hzero : toRat (.zero s) * toRat v = 0 := zero_mul _
    rw [hzero]
    rcases hv with t | ⟨t, hn, hv⟩
    · exact ⟨.zero _, .refl (Rounded.zero s).representable⟩
    · exact ⟨.zero _, .refl (Rounded.zero s).representable⟩
  · rcases hv with t | @⟨t, n, f, hn, hv⟩
    · have hzero : toRat (.finite s m e hm) * toRat (.zero t) = 0 := mul_zero _
      rw [hzero]
      exact ⟨.zero _, .refl (Rounded.zero t).representable⟩
    · have hvalue : signed s ((m : ℚ) * 2 ^ e) * signed t (n * 2 ^ f) =
          signed (s * t) ((m * n : Nat) * 2 ^ (e + f)) := by
        rw [signed_mul, zpow_add₀ two_ne_zero, Nat.cast_mul, mul_mul_mul_comm]
      rw [toRat, toRat, hvalue]
      exact nearest_roundWithAccuracy (s * t) (.exact (m * n)) (fine_mul hm hn hu hv)

end product

section quotient

/-- A fraction stands where its whole part and what remains of its numerator say. -/
theorem Stands.of_rest {em : ExtendedMantissa} {m d : Nat} (hd : 0 < d)
    (hmantissa : em.mantissa = m / d)
    (hle : em.roundBit.toNat * d ≤ 2 * (m % d))
    (hlt : 2 * (m % d) < em.roundBit.toNat * d + d)
    (hiff : 2 * (m % d) = em.roundBit.toNat * d ↔ em.stickyBit = false) :
    Stands em ((m : ℚ) / d) := by
  have hdq : (0 : ℚ) < d := Nat.cast_pos.mpr hd
  have hdiv := Nat.div_add_mod' m d
  have hhalves : halves em * d = 2 * (m / d * d) + em.roundBit.toNat * d := by
    rw [halves, hmantissa, Nat.add_mul, Nat.mul_assoc]
  constructor
  · rw [← mul_div_assoc, le_div_iff₀ hdq]
    have : halves em * d ≤ 2 * m := by omega
    exact_mod_cast this
  · rw [← mul_div_assoc, div_lt_iff₀ hdq, add_mul, one_mul]
    have : 2 * m < halves em * d + d := by omega
    exact_mod_cast this
  · rw [← hiff, ← mul_div_assoc, div_eq_iff hdq.ne']
    have : 2 * m = halves em * d ↔ 2 * (m % d) = em.roundBit.toNat * d := by omega
    exact_mod_cast this

/-- What remains of a division is told by the two further bits. -/
theorem Stands.div (m : Nat) {d : Nat} (hd : 0 < d) :
    Stands (.ofMantissaAndAccuracy (m / d) (accuracyOfFraction (m % d) d))
      ((m : ℚ) / d) := by
  have hrest := Nat.mod_lt m hd
  rw [accuracyOfFraction]
  split
  · apply of_rest hd rfl
    all_goals
      simp only [ExtendedMantissa.ofMantissaAndAccuracy, Bool.toNat_false, iff_true]
      omega
  · rcases Nat.lt_trichotomy (2 * (m % d)) d with hlt | heq | hgt
    · rw [Nat.compare_eq_lt.mpr hlt]
      apply of_rest hd rfl
      all_goals
        simp only [ExtendedMantissa.ofMantissaAndAccuracy, Bool.toNat_false,
          Bool.true_eq_false, iff_false]
        omega
    · rw [Nat.compare_eq_eq.mpr heq]
      apply of_rest hd rfl
      all_goals
        simp only [ExtendedMantissa.ofMantissaAndAccuracy, Bool.toNat_true, iff_true]
        omega
    · rw [Nat.compare_eq_gt.mpr hgt]
      apply of_rest hd rfl
      all_goals
        simp only [ExtendedMantissa.ofMantissaAndAccuracy, Bool.toNat_true,
          Bool.true_eq_false, iff_false]
        omega

theorem signed_div (s t : Sign) (x y : ℚ) :
    signed s x / signed t y = signed (s / t) (x / y) := by
  cases s <;> cases t
  · exact neg_div_neg_eq x y
  · exact neg_div y x
  · exact div_neg x
  · rfl

/-- A quotient has enough bits, or units that are as small as they may be. -/
theorem fine_div {m n : Nat} (hm : m ≠ 0) (hn : n ≠ 0) {k : Nat} {e : Int}
    (hfine : e ≤ -1074 ∨ n.log2 + 53 ≤ m.log2 + k) :
    52 ≤ ((m <<< k) / n).log2 ∨ e ≤ -1074 := by
  apply hfine.symm.imp_left
  intro hlog
  have hquotient : 2 ^ 52 ≤ (m <<< k) / n := by
    rw [Nat.le_div_iff_mul_le (Nat.pos_of_ne_zero hn)]
    calc 2 ^ 52 * n ≤ 2 ^ 52 * 2 ^ (n.log2 + 1) :=
          Nat.mul_le_mul_left _ Nat.lt_log2_self.le
      _ = 2 ^ (n.log2 + 53) := by rw [← pow_add]; congr 1; omega
      _ ≤ 2 ^ (m <<< k).log2 := by
          rw [log2_shiftLeft hm]
          exact Nat.pow_le_pow_right two_pos hlog
      _ ≤ m <<< k := Nat.log2_self_le (by rw [Nat.shiftLeft_eq]; positivity)
  exact (Nat.le_log2 (by omega)).mpr hquotient

/-- A quotient is rounded to a nearest number. -/
theorem nearest_div {u : UnpackedFloat} (hu : Rounded u) (t : Sign) {n : Nat}
    {f : Int} (hn : 0 < n) :
    Rounded (UnpackedFloat.div .binary64 u (.finite t n f hn)) ∧
      Nearest (toRat u / toRat (.finite t n f hn))
        (toRat (UnpackedFloat.div .binary64 u (.finite t n f hn))) := by
  rcases hu with s | @⟨s, m, e, hm, hu⟩
  · have hzero (x : ℚ) : toRat (.zero s) / x = 0 := zero_div x
    rw [hzero]
    exact ⟨.zero _, .refl (Rounded.zero s).representable⟩
  · simp only [UnpackedFloat.div, divCore, toRat]
    have htarget : Format.binary64.targetExponent (totalExponent m e - totalExponent n f) =
        max (m.log2 + e - n.log2 - f - 53) (-1074) := by
      change max (((m.log2 : Int) + 1 + e - (n.log2 + 1 + f)) - 53) (-1074) = _
      congr 1
      omega
    rw [htarget]
    generalize hunit : min (e - f) (max (m.log2 + e - n.log2 - f - 53) (-1074)) = g
    have hvalue : (m : ℚ) * 2 ^ e / (n * 2 ^ f) =
        ((m <<< (e - f - g).toNat : Nat) : ℚ) / n * 2 ^ g := by
      rw [mul_div_mul_comm, ← zpow_sub₀ two_ne_zero, div_mul_eq_mul_div,
        ← shiftLeft_mul_zpow m (e - f) g (by omega), mul_div_right_comm]
    rw [signed_div, hvalue]
    apply nearest_roundWithAccuracy (s / t) (Stands.div _ hn)
    apply fine_div hm.ne' hn.ne'
    omega

end quotient

end Credence.Number
