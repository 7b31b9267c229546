/-
The order of doubles.  A double that is a number has a whole number for its place
among all doubles, and doubles compare as their places do.  In the total order the
places are the same, but for the two zeros.

The lemmas on the model of doubles that are used here come with the whole of Mathlib
and with none of its modules.
-/
import Credence.Number.Binary64
import Mathlib

namespace Credence.Number

open Float.Model Float.Model.UnpackedFloat

section fields

variable (b : BitVec 64)

theorem toNat_unpackMantissa :
    (@unpackMantissa .binary64 b).toNat = b.toNat % 2 ^ 52 := by
  rw [unpackMantissa, BitVec.toNat_cast, BitVec.extractLsb_toNat,
    Nat.shiftRight_zero]
  rfl

theorem toNat_unpackExponent :
    (@unpackExponent .binary64 b).toNat =
      b.toNat / 2 ^ 52 % 2 ^ 11 := by
  rw [unpackExponent, BitVec.toNat_cast, BitVec.extractLsb_toNat,
    Nat.shiftRight_eq_div_pow]
  rfl

theorem toNat_unpackSign :
    (@unpackSign .binary64 b).toNat = b.toNat / 2 ^ 63 % 2 := by
  rw [unpackSign, BitVec.toNat_cast, BitVec.extractLsb_toNat,
    Nat.shiftRight_eq_div_pow]
  rfl

def signOf (negative : Bool) : Sign := if negative then .negative else .positive

theorem ofBitVec_unpackSign :
    Sign.ofBitVec (@unpackSign .binary64 b) =
      signOf (decide (2 ^ 63 ≤ b.toNat)) := by
  have hbit := toNat_unpackSign b
  have hlt := b.isLt
  have hzero : @unpackSign .binary64 b = 0#1 ↔ ¬ 2 ^ 63 ≤ b.toNat := by
    rw [BitVec.toNat_eq, hbit, BitVec.toNat_ofNat]
    omega
  rw [Sign.ofBitVec, signOf]
  by_cases hneg : 2 ^ 63 ≤ b.toNat
  · rw [if_neg (mt hzero.mp (not_not.mpr hneg)), if_pos (decide_eq_true hneg)]
  · rw [if_pos (hzero.mpr hneg), decide_eq_false hneg, if_neg Bool.false_ne_true]

end fields

theorem finite_congr {s : Sign} {m n : Nat} {e f : Int} {hm : 0 < m}
    {hn : 0 < n} (hmn : m = n) (hef : e = f) :
    UnpackedFloat.finite s m e hm = .finite s n f hn := by
  subst hmn hef
  rfl

/-- The fields of a double in terms of powers of two. -/
theorem Binary64.ofFloat_def (x : Float) :
    ofFloat x =
      if x.toBits.toNat / 2 ^ 52 % 2 ^ 11 = 2047 then
        if x.toBits.toNat % 2 ^ 52 = 0 then
          .infinite (decide (2 ^ 63 ≤ x.toBits.toNat))
        else .nan
      else if x.toBits.toNat / 2 ^ 52 % 2 ^ 11 = 0 then
        .finite (decide (2 ^ 63 ≤ x.toBits.toNat)) (x.toBits.toNat % 2 ^ 52) (-1074)
      else
        .finite (decide (2 ^ 63 ≤ x.toBits.toNat)) (2 ^ 52 + x.toBits.toNat % 2 ^ 52)
          ((x.toBits.toNat / 2 ^ 52 % 2 ^ 11 : Nat) - 1075) := by
  simp only [ofFloat, Nat.shiftRight_eq_div_pow, Nat.one_shiftLeft]

theorem totalKey_def (x : Float) :
    totalKey x =
      if 2 ^ 63 ≤ x.toBits.toNat then -((x.toBits.toNat - 2 ^ 63 : Nat) : Int) - 1
      else x.toBits.toNat := by
  simp only [totalKey, Nat.one_shiftLeft]

/-- The form in which doubles are calculated with, where a zero stands apart. -/
def Binary64.unpacked : Binary64 → UnpackedFloat
  | nan => .notANumber
  | infinite negative => .infinity (signOf negative)
  | finite negative significand exponent =>
      if h : 0 < significand then
        .finite (signOf negative) significand exponent h
      else .zero (signOf negative)

/-- Both ways to read a double see the same number. -/
theorem unpack_toModel (x : Float) :
    x.toModel.unpack = (Binary64.ofFloat x).unpacked := by
  have hexponent := toNat_unpackExponent x.toBits.toBitVec
  have hmantissa := toNat_unpackMantissa x.toBits.toBitVec
  have hlast : @unpackExponent .binary64 x.toBits.toBitVec = -1#11 ↔
      x.toBits.toNat / 2 ^ 52 % 2 ^ 11 = 2047 := by
    rw [BitVec.toNat_eq, hexponent]
    rfl
  have hfirst : @unpackExponent .binary64 x.toBits.toBitVec = 0#11 ↔
      x.toBits.toNat / 2 ^ 52 % 2 ^ 11 = 0 := by
    rw [BitVec.toNat_eq, hexponent]
    rfl
  have hnone : @unpackMantissa .binary64 x.toBits.toBitVec = 0#52 ↔
      x.toBits.toNat % 2 ^ 52 = 0 := by
    rw [BitVec.toNat_eq, hmantissa]
    rfl
  change UnpackedFloat.unpack .binary64 x.toBits.toBitVec = _
  rw [UnpackedFloat.unpack, Binary64.ofFloat_def, ofBitVec_unpackSign]
  simp only [hlast, hfirst, hnone]
  split
  · split
    · rfl
    · rfl
  · split
    · next hfield =>
        split
        · next hzero =>
            rw [hzero]
            rfl
        · next hpos =>
            rw [Binary64.unpacked, dif_pos (Nat.pos_of_ne_zero hpos)]
            apply finite_congr hmantissa
            rw [hexponent]
            change ((x.toBits.toNat / 2 ^ 52 % 2 ^ 11 : Nat) : Int) - _ + 1 = _
            rw [hfield]
            rfl
    · rw [Binary64.unpacked, dif_pos (by omega)]
      apply finite_congr
      · rw [BitVec.toNat_append,
          ← Nat.shiftLeft_add_eq_or_of_lt (BitVec.isLt _), hmantissa]
        rfl
      · rw [hexponent]
        rfl

/-- A significand fills its 53 bits; with the smallest exponent, it need not. -/
structure Trimmed (significand : Nat) (exponent : Int) : Prop where
  lt : significand < 2 ^ 53
  min_le : -1074 ≤ exponent
  full : 2 ^ 52 ≤ significand ∨ exponent = -1074

/-- The bounds that the parts of a finite double keep. -/
structure Bounded (significand : Nat) (exponent : Int) : Prop
    extends Trimmed significand exponent where
  le_max : exponent ≤ 971

/-- Numbers as doubles hold them. -/
inductive Canonical : UnpackedFloat → Prop
  | infinity (s : Sign) : Canonical (.infinity s)
  | zero (s : Sign) : Canonical (.zero s)
  | finite (s : Sign) {m : Nat} {e : Int} (hm : 0 < m) (h : Bounded m e) :
      Canonical (.finite s m e hm)

/-- The place of a number among all doubles. -/
def key : UnpackedFloat → Int
  | .notANumber => 0
  | .infinity s => s.apply (2047 * 2 ^ 52)
  | .zero _ => 0
  | .finite s m e _ => s.apply ((e + 1074) * 2 ^ 52 + m)

/-- The place of a double by its value, with one place for both zeros. -/
def orderKey (x : Float) : Int :=
  if 0 ≤ totalKey x then totalKey x else totalKey x + 1

theorem orderKey_def (x : Float) :
    orderKey x = (signOf (decide (2 ^ 63 ≤ x.toBits.toNat))).apply
      (x.toBits.toNat % 2 ^ 63 : Nat) := by
  have hlt : x.toBits.toNat < 2 ^ 64 := x.toBits.toNat_lt
  rw [orderKey, totalKey_def]
  by_cases hneg : 2 ^ 63 ≤ x.toBits.toNat
  · simp only [hneg, decide_true, signOf, Sign.apply, if_true]
    omega
  · simp only [hneg, decide_false, signOf, Sign.apply, if_false,
      Bool.false_eq_true]
    omega

/-- What is read from the bits of a number is canonical, and its place is told by
the bits alone. -/
theorem unpack_number {x : Float} (hx : x.isNaN = false) :
    Canonical x.toModel.unpack ∧ key x.toModel.unpack = orderKey x := by
  have hlt : x.toBits.toNat < 2 ^ 64 := x.toBits.toNat_lt
  have hnan : x.toModel.unpack.isNaN = false := hx
  rw [unpack_toModel, Binary64.ofFloat_def] at hnan ⊢
  rw [orderKey_def]
  generalize decide (2 ^ 63 ≤ x.toBits.toNat) = negative at hnan ⊢
  generalize x.toBits.toNat = bits at hlt hnan ⊢
  by_cases hlast : bits / 2 ^ 52 % 2 ^ 11 = 2047
  · simp only [hlast, if_true] at hnan ⊢
    split at hnan
    · next hzero =>
        rw [if_pos hzero]
        refine ⟨.infinity _, congrArg (signOf negative).apply ?_⟩
        omega
    · cases hnan
  · simp only [hlast, if_false]
    by_cases hfirst : bits / 2 ^ 52 % 2 ^ 11 = 0
    · rw [if_pos hfirst, Binary64.unpacked]
      split
      · next hpos =>
          refine ⟨.finite _ hpos ⟨⟨?_, ?_, Or.inr rfl⟩, ?_⟩,
            congrArg (signOf negative).apply ?_⟩
          · omega
          · omega
          · omega
          · omega
      · next hzero =>
          refine ⟨.zero _, ?_⟩
          have : bits % 2 ^ 63 = 0 := by omega
          rw [this]
          cases negative <;> rfl
    · rw [if_neg hfirst, Binary64.unpacked, dif_pos (by omega)]
      refine ⟨.finite _ _ ⟨⟨?_, ?_, Or.inl ?_⟩, ?_⟩, congrArg (signOf negative).apply ?_⟩
      · omega
      · omega
      · omega
      · omega
      · omega

section compare

/-- Where exponents differ, significands do not count. -/
theorem compare_then {m n : Nat} {e f : Int} (he : Trimmed m e)
    (hf : Trimmed n f) :
    (compare e f).then (compare m n) =
      compare ((e + 1074) * 2 ^ 52 + m) ((f + 1074) * 2 ^ 52 + n) := by
  have hm := he.lt
  have hn := hf.lt
  have hemin := he.min_le
  have hfmin := hf.min_le
  have hefull := he.full
  have hffull := hf.full
  rcases Int.lt_trichotomy e f with hlt | rfl | hgt
  · rw [Int.compare_eq_lt.mpr hlt, Int.compare_eq_lt.mpr (by omega)]
    rfl
  · rw [Int.compare_eq_eq.mpr rfl]
    rcases Nat.lt_trichotomy m n with hlt | rfl | hgt
    · rw [Nat.compare_eq_lt.mpr hlt, Int.compare_eq_lt.mpr (by omega)]
      rfl
    · rw [Nat.compare_eq_eq.mpr rfl, Int.compare_eq_eq.mpr rfl]
      rfl
    · rw [Nat.compare_eq_gt.mpr hgt, Int.compare_eq_gt.mpr (by omega)]
      rfl
  · rw [Int.compare_eq_gt.mpr hgt, Int.compare_eq_gt.mpr (by omega)]
    rfl

theorem compare_neg (i j : Int) : compare (-i) (-j) = (compare i j).swap := by
  rcases Int.lt_trichotomy i j with hlt | rfl | hgt
  · rw [Int.compare_eq_lt.mpr hlt, Int.compare_eq_gt.mpr (by omega)]
    rfl
  · rw [Int.compare_eq_eq.mpr rfl, Int.compare_eq_eq.mpr rfl]
    rfl
  · rw [Int.compare_eq_gt.mpr hgt, Int.compare_eq_lt.mpr (by omega)]
    rfl

/-- All other numbers lie between both infinities. -/
theorem key_lt_last {u : UnpackedFloat} (hu : Canonical u)
    (hfinite : ∀ s, u ≠ .infinity s) :
    -(2047 * 2 ^ 52) < key u ∧ key u < 2047 * 2 ^ 52 := by
  rcases hu with s | s | ⟨s, hm, h⟩
  · exact absurd rfl (hfinite s)
  · simp [key]
  · have hlt := h.lt
    have hmin := h.min_le
    have hmax := h.le_max
    cases s
    · simp only [key, Sign.apply]
      omega
    · simp only [key, Sign.apply]
      omega

theorem key_positive {m : Nat} {e : Int} {hm : 0 < m}
    (h : Canonical (.finite .positive m e hm)) :
    0 < key (.finite .positive m e hm) := by
  obtain _ | _ | ⟨_, _, h⟩ := h
  have hmin := h.min_le
  simp only [key, Sign.apply]
  omega

theorem key_negative {m : Nat} {e : Int} {hm : 0 < m}
    (h : Canonical (.finite .negative m e hm)) :
    key (.finite .negative m e hm) < 0 := by
  obtain _ | _ | ⟨_, _, h⟩ := h
  have hmin := h.min_le
  simp only [key, Sign.apply]
  omega

/-- Numbers compare as their places do. -/
theorem compare_eq {u v : UnpackedFloat} (hu : Canonical u) (hv : Canonical v) :
    u.compare v = some (compare (key u) (key v)) := by
  have hlt {i j : Int} (h : i < j) : some .lt = some (compare i j) :=
    congrArg some (Int.compare_eq_lt.mpr h).symm
  have hgt {i j : Int} (h : j < i) : some .gt = some (compare i j) :=
    congrArg some (Int.compare_eq_gt.mpr h).symm
  fun_cases UnpackedFloat.compare u v with
  | case1 => cases hu
  | case2 => cases hv
  | case3 s t => cases s <;> cases t <;> rfl
  | case4 v _ hfinite => exact hgt (key_lt_last hv hfinite).2
  | case5 v _ hfinite => exact hlt (key_lt_last hv hfinite).1
  | case6 u _ hfinite => exact hlt (key_lt_last hu hfinite).2
  | case7 u _ hfinite => exact hgt (key_lt_last hu hfinite).1
  | case8 => exact hgt (key_positive hu)
  | case9 => exact hlt (key_negative hu)
  | case10 => exact hlt (key_positive hv)
  | case11 => exact hgt (key_negative hv)
  | case12 => rfl
  | case13 m e hm n f hn =>
      obtain _ | _ | ⟨_, _, he⟩ := hu
      obtain _ | _ | ⟨_, _, hf⟩ := hv
      rw [compare_then he.toTrimmed hf.toTrimmed, ← compare_neg]
      rfl
  | case14 => exact hlt (Int.lt_trans (key_negative hu) (key_positive hv))
  | case15 => exact hgt (Int.lt_trans (key_negative hv) (key_positive hu))
  | case16 m e hm n f hn =>
      obtain _ | _ | ⟨_, _, he⟩ := hu
      obtain _ | _ | ⟨_, _, hf⟩ := hv
      rw [compare_then he.toTrimmed hf.toTrimmed]
      rfl

end compare

section order

variable {x y z : Float}

theorem eq_notANumber (hx : x.isNaN = true) : x.toModel.unpack = .notANumber := by
  change x.toModel.unpack.isNaN = true at hx
  cases hu : x.toModel.unpack with
  | notANumber => rfl
  | _ =>
      rw [hu] at hx
      cases hx

theorem compare_notANumber (u : UnpackedFloat) : u.compare .notANumber = none := by
  cases u <;> rfl

/-- What is no number compares with nothing. -/
theorem isNaN_of_compare {o : Ordering}
    (h : x.toModel.unpack.compare y.toModel.unpack = some o) :
    x.isNaN = false ∧ y.isNaN = false := by
  refine ⟨Bool.eq_false_iff.mpr fun hnan => ?_, Bool.eq_false_iff.mpr fun hnan => ?_⟩
  · rw [eq_notANumber hnan] at h
    cases h
  · rw [eq_notANumber hnan, compare_notANumber] at h
    cases h

theorem isNaN_of_le (h : x ≤ y) : x.isNaN = false ∧ y.isNaN = false := by
  change decide (x.toModel ≤ y.toModel) = true at h
  rw [decide_eq_true_iff] at h
  change (x.toModel.unpack.compare y.toModel.unpack).any (·.isLE) = true at h
  obtain ⟨o, ho, -⟩ := (Option.any_eq_true _ _).mp h
  exact isNaN_of_compare ho

theorem isNaN_of_lt (h : x < y) : x.isNaN = false ∧ y.isNaN = false := by
  change decide (x.toModel < y.toModel) = true at h
  rw [decide_eq_true_iff] at h
  change (x.toModel.unpack.compare y.toModel.unpack == some .lt) = true at h
  exact isNaN_of_compare (beq_iff_eq.mp h)

theorem isNaN_of_beq (h : (x == y) = true) : x.isNaN = false ∧ y.isNaN = false := by
  change (x.toModel.unpack.compare y.toModel.unpack == some .eq) = true at h
  exact isNaN_of_compare (beq_iff_eq.mp h)

theorem compare_toModel (hx : x.isNaN = false) (hy : y.isNaN = false) :
    x.toModel.unpack.compare y.toModel.unpack =
      some (compare (orderKey x) (orderKey y)) := by
  obtain ⟨hx, hxkey⟩ := unpack_number hx
  obtain ⟨hy, hykey⟩ := unpack_number hy
  rw [compare_eq hx hy, hxkey, hykey]

protected theorem le_iff (hx : x.isNaN = false) (hy : y.isNaN = false) :
    x ≤ y ↔ orderKey x ≤ orderKey y := by
  change decide (x.toModel ≤ y.toModel) = true ↔ _
  rw [decide_eq_true_iff]
  change (x.toModel.unpack.compare y.toModel.unpack).any (·.isLE) = true ↔ _
  rw [compare_toModel hx hy, Option.any_some, Int.isLE_compare]

protected theorem lt_iff (hx : x.isNaN = false) (hy : y.isNaN = false) :
    x < y ↔ orderKey x < orderKey y := by
  change decide (x.toModel < y.toModel) = true ↔ _
  rw [decide_eq_true_iff]
  change (x.toModel.unpack.compare y.toModel.unpack == some .lt) = true ↔ _
  rw [compare_toModel hx hy, beq_iff_eq, Option.some_inj, Int.compare_eq_lt]

protected theorem beq_iff (hx : x.isNaN = false) (hy : y.isNaN = false) :
    (x == y) = true ↔ orderKey x = orderKey y := by
  change (x.toModel.unpack.compare y.toModel.unpack == some .eq) = true ↔ _
  rw [compare_toModel hx hy, beq_iff_eq, Option.some_inj, Int.compare_eq_eq]

theorem orderKey_eq_of_beq (h : (x == y) = true) : orderKey x = orderKey y := by
  obtain ⟨hx, hy⟩ := isNaN_of_beq h
  exact (Number.beq_iff hx hy).mp h

theorem orderKey_lt_of_lt (h : x < y) : orderKey x < orderKey y := by
  obtain ⟨hx, hy⟩ := isNaN_of_lt h
  exact (Number.lt_iff hx hy).mp h

protected theorem le_of_lt (h : x < y) : x ≤ y := by
  obtain ⟨hx, hy⟩ := isNaN_of_lt h
  rw [Number.lt_iff hx hy] at h
  rw [Number.le_iff hx hy]
  omega

protected theorem not_le_of_lt (h : x < y) : ¬ y ≤ x := by
  obtain ⟨hx, hy⟩ := isNaN_of_lt h
  rw [Number.lt_iff hx hy] at h
  rw [Number.le_iff hy hx]
  omega

protected theorem lt_of_not_le (hx : x.isNaN = false) (hy : y.isNaN = false)
    (h : ¬ x ≤ y) : y < x := by
  rw [Number.le_iff hx hy] at h
  rw [Number.lt_iff hy hx]
  omega

protected theorem le_trans (hxy : x ≤ y) (hyz : y ≤ z) : x ≤ z := by
  obtain ⟨hx, hy⟩ := isNaN_of_le hxy
  obtain ⟨-, hz⟩ := isNaN_of_le hyz
  rw [Number.le_iff hx hy] at hxy
  rw [Number.le_iff hy hz] at hyz
  rw [Number.le_iff hx hz]
  omega

protected theorem lt_of_lt_of_le (hxy : x < y) (hyz : y ≤ z) : x < z := by
  obtain ⟨hx, hy⟩ := isNaN_of_lt hxy
  obtain ⟨-, hz⟩ := isNaN_of_le hyz
  rw [Number.lt_iff hx hy] at hxy
  rw [Number.le_iff hy hz] at hyz
  rw [Number.lt_iff hx hz]
  omega

protected theorem lt_of_le_of_lt (hxy : x ≤ y) (hyz : y < z) : x < z := by
  obtain ⟨hx, hy⟩ := isNaN_of_le hxy
  obtain ⟨-, hz⟩ := isNaN_of_lt hyz
  rw [Number.le_iff hx hy] at hxy
  rw [Number.lt_iff hy hz] at hyz
  rw [Number.lt_iff hx hz]
  omega

protected theorem lt_of_le_of_beq (h : x ≤ y) (hne : (x == y) = false) : x < y := by
  obtain ⟨hx, hy⟩ := isNaN_of_le h
  rw [Number.le_iff hx hy] at h
  rw [Bool.eq_false_iff, Ne, Number.beq_iff hx hy] at hne
  rw [Number.lt_iff hx hy]
  omega

/-- Doubles are known by their places in the total order. -/
theorem totalKey_injective (h : totalKey x = totalKey y) : x = y := by
  have hbits : x.toBits.toNat = y.toBits.toNat := by
    simp only [totalKey_def] at h
    split_ifs at h
    · omega
    · omega
    · omega
    · omega
  exact Float.toBits_inj.mp (UInt64.toNat_inj.mp hbits)

/-- Only the two zeros have one value without being one double. -/
theorem eq_or_orderKey_eq_zero (h : orderKey x = orderKey y) : x = y ∨ orderKey x = 0 := by
  by_cases hkey : totalKey x = totalKey y
  · exact Or.inl (totalKey_injective hkey)
  · right
    simp only [orderKey] at h ⊢
    split_ifs at h ⊢
    all_goals omega

theorem totalLe_refl (x : Float) : totalLe x x = true := decide_eq_true (Int.le_refl _)

theorem totalLe_antisymm (hxy : totalLe x y = true) (hyx : totalLe y x = true) :
    x = y := by
  simp only [totalLe, decide_eq_true_eq] at hxy hyx
  exact totalKey_injective (Int.le_antisymm hxy hyx)

/-- Numbers that differ are in one order only. -/
theorem totalLe_eq_false (hx : x.isNaN = false) (hle : totalLe x y = true)
    (hne : (x == y) = false) : totalLe y x = false := by
  by_contra hother
  have hsame := totalLe_antisymm hle (Bool.eq_true_of_not_eq_false hother)
  rw [← hsame, Bool.eq_false_iff] at hne
  exact hne ((Number.beq_iff hx hx).mpr rfl)

/-- The total order of doubles refines the order of their values. -/
theorem le_of_totalLe (hx : x.isNaN = false) (hy : y.isNaN = false)
    (h : totalLe x y = true) : x ≤ y := by
  rw [totalLe, decide_eq_true_iff] at h
  rw [Number.le_iff hx hy, orderKey, orderKey]
  split_ifs
  · omega
  · omega
  · omega
  · omega

end order

end Credence.Number
