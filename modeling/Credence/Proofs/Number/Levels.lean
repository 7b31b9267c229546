/-
The values of a list of doubles, each one once and in ascending order.  Doubles that
compare as equal are one value, so either zero may stand for both.
-/
import Credence.Proofs.Number.Order

namespace Credence.Number

/-- The different values of a list in ascending order. -/
structure Levels (values levels : List Float) : Prop where
  ascending : levels.Pairwise (· < ·)
  occurs : ∀ v ∈ levels, ∃ x ∈ values, (x == v) = true
  covers : ∀ x ∈ values, ∃ v ∈ levels, (x == v) = true

/-- Put a value in its place, unless it is there already. -/
def insertLevel (x : Float) : List Float → List Float
  | [] => [x]
  | v :: levels =>
      if x < v then x :: v :: levels
      else if x == v then v :: levels
      else v :: insertLevel x levels

/-- Collect the different values of a list. -/
def levelsOf (values : List Float) : List Float := values.foldr insertLevel []

section insertLevel

variable {x v : Float} {levels : List Float}

theorem mem_of_mem_insertLevel (h : v ∈ insertLevel x levels) : v = x ∨ v ∈ levels := by
  induction levels with
  | nil => exact Or.inl (List.mem_singleton.mp h)
  | cons w levels ih =>
      rw [insertLevel] at h
      split_ifs at h
      · exact List.mem_cons.mp h
      · exact Or.inr h
      · rcases List.mem_cons.mp h with rfl | hmem
        · exact Or.inr List.mem_cons_self
        · exact (ih hmem).imp_right (List.mem_cons_of_mem w)

theorem mem_insertLevel_of_mem (h : v ∈ levels) : v ∈ insertLevel x levels := by
  induction levels with
  | nil => cases h
  | cons w levels ih =>
      rw [insertLevel]
      split_ifs
      · exact List.mem_cons_of_mem x h
      · exact h
      · rcases List.mem_cons.mp h with rfl | hmem
        · exact List.mem_cons_self
        · exact List.mem_cons_of_mem w (ih hmem)

variable (hx : x.isNaN = false)

include hx

theorem exists_mem_insertLevel (levels : List Float) :
    ∃ v ∈ insertLevel x levels, (x == v) = true := by
  have hself : (x == x) = true := (Number.beq_iff hx hx).mpr rfl
  induction levels with
  | nil => exact ⟨x, List.mem_cons_self, hself⟩
  | cons w levels ih =>
      rw [insertLevel]
      split_ifs with _ hequal
      · exact ⟨x, List.mem_cons_self, hself⟩
      · exact ⟨w, List.mem_cons_self, hequal⟩
      · obtain ⟨v, hv, hequal⟩ := ih
        exact ⟨v, List.mem_cons_of_mem w hv, hequal⟩

theorem pairwise_insertLevel (hlevels : ∀ v ∈ levels, v.isNaN = false)
    (h : levels.Pairwise (· < ·)) : (insertLevel x levels).Pairwise (· < ·) := by
  induction levels with
  | nil => exact List.pairwise_singleton _ x
  | cons w levels ih =>
      obtain ⟨hw, hlevels⟩ := List.forall_mem_cons.mp hlevels
      obtain ⟨habove, hrest⟩ := List.pairwise_cons.mp h
      rw [insertLevel]
      split_ifs with hlt hequal
      · refine List.pairwise_cons.mpr ⟨?_, h⟩
        intro v hv
        rcases List.mem_cons.mp hv with rfl | hmem
        · exact hlt
        · exact Number.lt_of_lt_of_le hlt (Number.le_of_lt (habove v hmem))
      · exact h
      · refine List.pairwise_cons.mpr ⟨?_, ih hlevels hrest⟩
        intro v hv
        rcases mem_of_mem_insertLevel hv with rfl | hmem
        · rw [Number.lt_iff hx hw] at hlt
          rw [Number.beq_iff hx hw] at hequal
          rw [Number.lt_iff hw hx]
          omega
        · exact habove v hmem

end insertLevel

/-- The values of numbers can be listed. -/
theorem levels_levelsOf {values : List Float} (hnumbers : ∀ x ∈ values, x.isNaN = false) :
    Levels values (levelsOf values) := by
  induction values with
  | nil => exact ⟨.nil, nofun, nofun⟩
  | cons x values ih =>
      obtain ⟨hx, hnumbers⟩ := List.forall_mem_cons.mp hnumbers
      have hlevels := ih hnumbers
      have hnan : ∀ v ∈ levelsOf values, v.isNaN = false := by
        intro v hv
        obtain ⟨y, -, hequal⟩ := hlevels.occurs v hv
        exact (isNaN_of_beq hequal).2
      refine ⟨pairwise_insertLevel hx hnan hlevels.ascending, ?_, ?_⟩
      · intro v hv
        rcases mem_of_mem_insertLevel hv with rfl | hmem
        · exact ⟨v, List.mem_cons_self, (Number.beq_iff hx hx).mpr rfl⟩
        · obtain ⟨y, hy, hequal⟩ := hlevels.occurs v hmem
          exact ⟨y, List.mem_cons_of_mem x hy, hequal⟩
      · intro y hy
        rcases List.mem_cons.mp hy with rfl | hmem
        · exact exists_mem_insertLevel hx _
        · obtain ⟨v, hv, hequal⟩ := hlevels.covers y hmem
          exact ⟨v, mem_insertLevel_of_mem hv, hequal⟩

namespace Levels

variable {x y : Float} {values others levels : List Float}

theorem of_perm (h : Levels values levels) (hperm : values.Perm others) :
    Levels others levels where
  ascending := h.ascending
  occurs v hv := by
    obtain ⟨x, hx, hequal⟩ := h.occurs v hv
    exact ⟨x, hperm.mem_iff.mp hx, hequal⟩
  covers x hx := h.covers x (hperm.mem_iff.mpr hx)

/-- A value that comes again needs no level of its own. -/
theorem of_cons_beq (h : Levels (x :: y :: values) levels) (hequal : (x == y) = true) :
    Levels (y :: values) levels where
  ascending := h.ascending
  occurs v hv := by
    obtain ⟨z, hz, hzv⟩ := h.occurs v hv
    rcases List.mem_cons.mp hz with rfl | hmem
    · refine ⟨y, List.mem_cons_self, ?_⟩
      rw [Number.beq_iff (isNaN_of_beq hequal).2 (isNaN_of_beq hzv).2]
      exact (orderKey_eq_of_beq hequal).symm.trans (orderKey_eq_of_beq hzv)
    · exact ⟨z, hmem, hzv⟩
  covers z hz := h.covers z (List.mem_cons_of_mem x hz)

/-- The least value has the first level. -/
theorem exists_head (h : Levels (x :: values) levels) (hle : ∀ y ∈ values, x ≤ y) :
    ∃ v above, levels = v :: above ∧ (x == v) = true := by
  obtain ⟨u, hu, hxu⟩ := h.covers x List.mem_cons_self
  rcases levels with _ | ⟨v, above⟩
  · cases hu
  · refine ⟨v, above, rfl, ?_⟩
    rcases List.mem_cons.mp hu with rfl | hmem
    · exact hxu
    · obtain ⟨z, hz, hzv⟩ := h.occurs v List.mem_cons_self
      rcases List.mem_cons.mp hz with rfl | hz
      · exact hzv
      · -- the level of `z` would be below that of `x`
        obtain ⟨hx, hz'⟩ := isNaN_of_le (hle z hz)
        have hxz := (Number.le_iff hx hz').mp (hle z hz)
        have hvu := orderKey_lt_of_lt (List.rel_of_pairwise_cons h.ascending hmem)
        have hxkey := orderKey_eq_of_beq hxu
        have hzkey := orderKey_eq_of_beq hzv
        omega

/-- Without a value below all others its level is not needed. -/
theorem tail {v : Float} (h : Levels (x :: values) (v :: levels)) (hxv : (x == v) = true)
    (hlt : ∀ y ∈ values, x < y) : Levels values levels := by
  obtain ⟨habove, hascending⟩ := List.pairwise_cons.mp h.ascending
  have hxkey := orderKey_eq_of_beq hxv
  refine ⟨hascending, ?_, ?_⟩
  · intro w hw
    obtain ⟨z, hz, hzw⟩ := h.occurs w (List.mem_cons_of_mem v hw)
    rcases List.mem_cons.mp hz with rfl | hmem
    · have hvw := orderKey_lt_of_lt (habove w hw)
      have hzkey := orderKey_eq_of_beq hzw
      omega
    · exact ⟨z, hmem, hzw⟩
  · intro z hz
    obtain ⟨w, hw, hzw⟩ := h.covers z (List.mem_cons_of_mem x hz)
    rcases List.mem_cons.mp hw with rfl | hmem
    · have hxz := orderKey_lt_of_lt (hlt z hz)
      have hzkey := orderKey_eq_of_beq hzw
      omega
    · exact ⟨w, hmem, hzw⟩

/-- Where the least value comes once, it and the next one have the first two levels. -/
theorem exists_first_two (h : Levels (x :: y :: values) levels) (hlt : x < y)
    (hle : ∀ z ∈ values, y ≤ z) :
    ∃ v w above, levels = v :: w :: above ∧ (x == v) = true ∧ (y == w) = true ∧
      Levels (y :: values) (w :: above) := by
  have hall : ∀ z ∈ y :: values, x < z := by
    intro z hz
    rcases List.mem_cons.mp hz with rfl | hmem
    · exact hlt
    · exact Number.lt_of_lt_of_le hlt (hle z hmem)
  obtain ⟨v, levels, rfl, hxv⟩ := h.exists_head fun z hz => Number.le_of_lt (hall z hz)
  have htail := h.tail hxv hall
  obtain ⟨w, above, rfl, hyw⟩ := htail.exists_head hle
  exact ⟨v, w, above, rfl, hxv, hyw, htail⟩

theorem eq_nil (h : Levels [] levels) : levels = [] := by
  apply List.eq_nil_iff_forall_not_mem.mpr
  intro v hv
  obtain ⟨x, hx, -⟩ := h.occurs v hv
  cases hx

/-- There are two levels as soon as two values differ. -/
theorem length_le_one_iff (h : Levels values levels) :
    levels.length ≤ 1 ↔ ∀ x ∈ values, ∀ y ∈ values, (x == y) = true := by
  constructor
  · intro hlength x hx y hy
    obtain ⟨v, hv, hxv⟩ := h.covers x hx
    obtain ⟨w, hw, hyw⟩ := h.covers y hy
    obtain rfl : v = w := by
      obtain ⟨u, hu⟩ := List.length_eq_one_iff.mp
        (Nat.le_antisymm hlength (List.length_pos_of_mem hv))
      rw [hu] at hv hw
      rw [List.mem_singleton.mp hv, List.mem_singleton.mp hw]
    rw [Number.beq_iff (isNaN_of_beq hxv).1 (isNaN_of_beq hyw).1]
    exact (orderKey_eq_of_beq hxv).trans (orderKey_eq_of_beq hyw).symm
  · intro hequal
    rcases levels with _ | ⟨v, _ | ⟨w, above⟩⟩
    · exact Nat.zero_le 1
    · exact Nat.le_refl 1
    · obtain ⟨x, hx, hxv⟩ := h.occurs v List.mem_cons_self
      obtain ⟨y, hy, hyw⟩ := h.occurs w (List.mem_cons_of_mem v List.mem_cons_self)
      have hlt := orderKey_lt_of_lt (List.rel_of_pairwise_cons h.ascending List.mem_cons_self)
      have hxy := orderKey_eq_of_beq (hequal x hx y hy)
      have hxkey := orderKey_eq_of_beq hxv
      have hykey := orderKey_eq_of_beq hyw
      omega

end Levels

end Credence.Number
