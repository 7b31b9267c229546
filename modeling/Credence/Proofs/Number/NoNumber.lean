/-
What is no number stays none in sums, products and square roots, and it comes behind
all numbers in the total order.  A square root is in front of minus zero in no case.
-/
import Credence.Proofs.Number.Count

namespace Credence.Number

open Float.Model Float.Model.UnpackedFloat

variable {x y : Float}

theorem isNaN_pack {u : UnpackedFloat} (hu : u = .notANumber) :
    (Float.ofModel (.pack u)).isNaN = true := by
  rw [hu]
  rfl

theorem isNaN_add_left (hx : x.isNaN = true) (y : Float) : (x + y).isNaN = true := by
  apply isNaN_pack
  rw [eq_notANumber hx]
  rfl

theorem isNaN_add_right (x : Float) (hy : y.isNaN = true) : (x + y).isNaN = true := by
  apply isNaN_pack
  rw [eq_notANumber hy]
  cases x.toModel.unpack <;> rfl

theorem isNaN_mul_left (hx : x.isNaN = true) (y : Float) : (x * y).isNaN = true := by
  apply isNaN_pack
  rw [eq_notANumber hx]
  rfl

theorem isNaN_sqrt (hx : x.isNaN = true) : x.sqrt.isNaN = true := by
  apply isNaN_pack
  rw [eq_notANumber hx]
  rfl

theorem isNaN_abs (x : Float) : x.abs.isNaN = x.isNaN := by
  cases hx : x.isNaN with
  | true =>
      apply isNaN_pack
      rw [eq_notANumber hx]
      rfl
  | false =>
      change (Float.Model.pack x.toModel.unpack.abs).unpack.isNaN = false
      obtain ⟨hcanonical, -⟩ := unpack_number hx
      generalize x.toModel.unpack = u at hcanonical
      rcases hcanonical with s | s | ⟨s, hm, h⟩
      · change (Float.Model.pack (.infinity .positive)).unpack.isNaN = false
        decide +kernel
      · change (Float.Model.pack (.zero .positive)).unpack.isNaN = false
        decide +kernel
      · have hrounded := Rounded.finite .positive hm h.toTrimmed
        rw [UnpackedFloat.abs, unpack_pack hrounded]
        exact isNaN_clip hrounded

/-- A sum of which one part is no number is none. -/
theorem isNaN_foldl_add {xs : List Float} (h : ∃ x ∈ xs, x.isNaN = true) (start : Float) :
    (xs.foldl (· + ·) start).isNaN = true := by
  have hstart (xs : List Float) : ∀ {z : Float}, z.isNaN = true →
      (xs.foldl (· + ·) z).isNaN = true := by
    induction xs with
    | nil => exact id
    | cons x xs ih => exact fun hz => ih (isNaN_add_left hz x)
  obtain ⟨x, hx, hnan⟩ := h
  obtain ⟨before, after, rfl⟩ := List.append_of_mem hx
  rw [List.foldl_append, List.foldl_cons]
  exact hstart after (isNaN_add_right _ hnan)

/-- There is one double that is no number. -/
theorem totalKey_of_isNaN (hx : x.isNaN = true) :
    totalKey x = 2047 * 2 ^ 52 + 2 ^ 51 := by
  -- a double carries the proof that no other bits are read as no number
  have hbits : x.toBits.toBitVec = packedNaN .binary64 := by
    have hunpack := eq_notANumber hx
    rw [Float.Model.unpack, UnpackedFloat.unpack] at hunpack
    dsimp only at hunpack
    split at hunpack
    · next hexponent =>
        split at hunpack
        · cases hunpack
        · next hmantissa => exact x.toModel.valid.eq_packedNaN hexponent hmantissa
    · split at hunpack
      · split at hunpack
        · cases hunpack
        · cases hunpack
      · cases hunpack
  have hnat : x.toBits.toNat = 2047 * 2 ^ 52 + 2 ^ 51 := by
    rw [← UInt64.toNat_toBitVec, hbits]
    decide
  rw [totalKey_def, hnat]
  decide

/-- What is no number comes behind everything. -/
theorem totalKey_lt_of_isNaN (hx : x.isNaN = false) (hy : y.isNaN = true) :
    totalKey x < totalKey y := by
  have hle : orderKey x ≤ 2047 * 2 ^ 52 := by
    obtain ⟨hcanonical, hkey⟩ := unpack_number hx
    rw [← hkey]
    generalize x.toModel.unpack = u at hcanonical
    cases u with
    | infinity s => cases s <;> decide
    | _ => exact (key_lt_last hcanonical nofun).2.le
  rw [totalKey_of_isNaN hy]
  rw [orderKey] at hle
  split at hle
  · omega
  · omega

/-- What has no negative sign. -/
inductive Unsigned : UnpackedFloat → Prop
  | notANumber : Unsigned .notANumber
  | infinity : Unsigned (.infinity .positive)
  | zero : Unsigned (.zero .positive)
  | finite {m : Nat} {e : Int} (h : 0 < m) : Unsigned (.finite .positive m e h)

theorem unsigned_roundWithAccuracy (m : Nat) (e : Int) (a : Accuracy) :
    Unsigned (roundWithAccuracy .binary64 .positive m e a) := by
  rw [roundWithAccuracy]
  dsimp only
  split
  · exact .zero
  · next h => exact .finite (Nat.pos_of_ne_zero h)

theorem unsigned_sqrt {u : UnpackedFloat} (hu : u ≠ .zero .negative) :
    Unsigned (UnpackedFloat.sqrt .binary64 u) := by
  fun_cases UnpackedFloat.sqrt .binary64 u with
  | case1 => exact .notANumber
  | case2 => exact .infinity
  | case3 => exact .notANumber
  | case4 => exact .notANumber
  | case5 s =>
      cases s with
      | negative => exact absurd rfl hu
      | positive => exact .zero
  | case6 => exact unsigned_roundWithAccuracy _ _ _

theorem toNat_pack_lt {u : UnpackedFloat} (hu : Unsigned u) :
    (UnpackedFloat.pack .binary64 u).toNat < 2 ^ 63 := by
  have hpositive (e : BitVec 11) (m : BitVec 52) :
      (packComponents .binary64 .positive e m).toNat < 2 ^ 63 := by
    have he := e.isLt
    have hm := m.isLt
    rw [toNat_packComponents]
    simp only [Sign.toBitVec, BitVec.toNat_ofNat]
    omega
  cases hu with
  | notANumber => exact hpositive _ _
  | infinity => exact hpositive _ _
  | zero => exact hpositive _ _
  | finite h =>
      rw [UnpackedFloat.pack]
      dsimp only
      split_ifs
      · exact hpositive _ _
      · exact hpositive _ _
      · exact hpositive _ _

/-- A square root is minus zero or comes behind it. -/
theorem neg_one_le_totalKey_sqrt (x : Float) : -1 ≤ totalKey x.sqrt := by
  have hbits : x.sqrt.toBits.toNat =
      (UnpackedFloat.pack .binary64 (UnpackedFloat.sqrt .binary64 x.toModel.unpack)).toNat :=
    rfl
  rw [totalKey_def, hbits]
  by_cases hzero : x.toModel.unpack = .zero .negative
  · rw [hzero]
    decide
  · have hlt := toNat_pack_lt (unsigned_sqrt hzero)
    rw [if_neg (by omega)]
    omega

end Credence.Number
