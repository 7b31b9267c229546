/-
Metrics as fractions.  Calculated exactly, a metric never asks for a division by zero,
and each one lies between zero and one.  The harmonic mean of a class can be told from
its counts alone, and it reaches its limits just where the counts do.
-/
import Mathlib.Algebra.Order.Field.Basic
import Mathlib.Data.Rat.Cast.Order
import Mathlib.Order.Interval.Set.Basic
import Mathlib.Tactic.FieldSimp
import Mathlib.Tactic.Linarith
import Mathlib.Tactic.Positivity
import Mathlib.Tactic.Ring
import Credence.Proofs.Metrics.Symmetry

namespace Credence

/-- What comes of exact arithmetic: a rational number, or nothing as soon as anything
was divided by zero. -/
structure Exact where
  value? : Option ℚ
deriving DecidableEq

namespace Exact

/-- A number that was calculated without a division by zero. -/
def of (x : ℚ) : Exact := ⟨some x⟩

/-- Nothing comes of nothing. -/
def lift (f : ℚ → ℚ → Option ℚ) (x y : Exact) : Exact :=
  ⟨x.value?.bind fun a => y.value?.bind (f a)⟩

instance : Fractional Exact where
  add := lift fun x y => some (x + y)
  mul := lift fun x y => some (x * y)
  div := lift fun x y => if y = 0 then none else some (x / y)
  beq x y := decide (x = y)
  ofCount n := of n

variable (x y : ℚ)

theorem ofCount_eq (n : Nat) : (Fractional.ofCount n : Exact) = of n := rfl

theorem of_add : of x + of y = of (x + y) := rfl

theorem of_mul : of x * of y = of (x * y) := rfl

variable {x y}

theorem of_div (hy : y ≠ 0) : of x / of y = of (x / y) := by
  change Exact.mk (if y = 0 then none else some (x / y)) = of (x / y)
  rw [if_neg hy]
  rfl

theorem of_injective (h : of x = of y) : x = y :=
  Option.some.inj (Exact.mk.inj h)

theorem of_beq_zero : (of x == Fractional.ofCount 0) = true ↔ x = 0 := by
  change decide (of x = of (0 : Nat)) = true ↔ x = 0
  rw [decide_eq_true_iff, Nat.cast_zero]
  exact ⟨of_injective, congrArg of⟩

/-- A quotient of counts is guarded against a count of zero below it. -/
theorem ratio_eq (numerator denominator : Nat) :
    ratio numerator denominator = of (numerator / denominator) := by
  rw [ratio]
  by_cases hzero : denominator = 0
  · rw [if_pos hzero, hzero, ofCount_eq, Nat.cast_zero, div_zero]
  · rw [if_neg hzero, ofCount_eq, ofCount_eq, of_div (Nat.cast_ne_zero.mpr hzero)]

/-- A harmonic mean is guarded against a sum of zero below it. -/
theorem harmonicMean_eq (x y : ℚ) :
    harmonicMean (of x) (of y) = of (2 * x * y / (x + y)) := by
  have hsum : (of x + of y == Fractional.ofCount 0) = true ↔ x + y = 0 := of_beq_zero
  rw [harmonicMean]
  by_cases hzero : x + y = 0
  · rw [if_pos (hsum.mpr hzero), hzero, div_zero, ofCount_eq, Nat.cast_zero]
  · rw [if_neg (mt hsum.mp hzero), ofCount_eq, of_add, of_mul, of_mul, of_div hzero,
      Nat.cast_ofNat]

end Exact

section shares

/-- A part of a whole is a share of it. -/
theorem div_add_mem_Icc (part rest : Nat) :
    (part / (part + rest : Nat) : ℚ) ∈ Set.Icc 0 1 := by
  constructor
  · positivity
  · apply div_le_one_of_le₀
    · exact_mod_cast Nat.le_add_right part rest
    · positivity

theorem div_add_eq_one_iff (part rest : Nat) :
    (part / (part + rest : Nat) : ℚ) = 1 ↔ 0 < part ∧ rest = 0 := by
  by_cases hpart : part = 0
  · simp [hpart]
  · have hwhole : ((part + rest : Nat) : ℚ) ≠ 0 := Nat.cast_ne_zero.mpr (by omega)
    rw [div_eq_one_iff_eq hwhole, Nat.cast_inj]
    omega

theorem half_sum_mem_Icc {x y : ℚ} (hx : x ∈ Set.Icc 0 1) (hy : y ∈ Set.Icc 0 1) :
    (x + y) / 2 ∈ Set.Icc 0 1 := by
  obtain ⟨hx0, hx1⟩ := hx
  obtain ⟨hy0, hy1⟩ := hy
  constructor
  · linarith
  · linarith

variable (met madeUp missed : Nat)

/-- The harmonic mean of precision and sensitivity, as a fraction of counts. -/
theorem harmonicMean_shares :
    2 * (met / (met + madeUp : Nat) : ℚ) * (met / (met + missed : Nat)) /
        (met / (met + madeUp : Nat) + met / (met + missed : Nat)) =
      2 * met / (2 * met + madeUp + missed) := by
  by_cases hmet : met = 0
  · simp [hmet]
  · have hpos : (0 : ℚ) < met := Nat.cast_pos.mpr (Nat.pos_of_ne_zero hmet)
    push_cast
    field_simp
    ring

variable {met madeUp missed}

/-- Halfway between a larger and a smaller whole, the part is a share in between. -/
theorem harmonicMean_between (h : madeUp ≤ missed) :
    (met / (met + missed : Nat) : ℚ) ≤ 2 * met / (2 * met + madeUp + missed) ∧
      2 * met / (2 * met + madeUp + missed) ≤ (met / (met + madeUp : Nat) : ℚ) := by
  by_cases hmet : met = 0
  · simp [hmet]
  · have hpos : (0 : ℚ) < met := Nat.cast_pos.mpr (Nat.pos_of_ne_zero hmet)
    have hle : (madeUp : ℚ) ≤ missed := Nat.cast_le.mpr h
    push_cast
    constructor
    · rw [div_le_div_iff₀ (by positivity) (by positivity), mul_assoc, mul_left_comm]
      exact mul_le_mul_of_nonneg_left (by linarith) hpos.le
    · rw [div_le_div_iff₀ (by positivity) (by positivity), mul_assoc, mul_left_comm]
      exact mul_le_mul_of_nonneg_left (by linarith) hpos.le

end shares

namespace ClassMetrics

def map (f : α → β) (m : ClassMetrics α) : ClassMetrics β :=
  ⟨f m.precision, f m.sensitivity, f m.f1, m.support⟩

/-- The metrics of a class that was met, made up and missed so many times. -/
def ofCounts (met madeUp missed : Nat) : ClassMetrics ℚ where
  precision := met / (met + madeUp : Nat)
  sensitivity := met / (met + missed : Nat)
  f1 := 2 * met / (2 * met + madeUp + missed)
  support := met + missed

def exactMean (x y : ClassMetrics ℚ) : ClassMetrics ℚ where
  precision := (x.precision + y.precision) / 2
  sensitivity := (x.sensitivity + y.sensitivity) / 2
  f1 := (x.f1 + y.f1) / 2
  support := x.support + y.support

theorem ofConfusion_eq (c : Confusion) :
    ofConfusion c =
      (ofCounts c.truePositives c.falsePositives c.falseNegatives).map Exact.of := by
  simp only [ofConfusion, Exact.ratio_eq, Exact.harmonicMean_eq, harmonicMean_shares]
  rfl

theorem mean_map (x y : ClassMetrics ℚ) :
    (x.map Exact.of).mean (y.map Exact.of) = (exactMean x y).map Exact.of := by
  have htwo : ((2 : Nat) : ℚ) ≠ 0 := by norm_num
  simp only [mean, map, Exact.of_add, Exact.ofCount_eq, Exact.of_div htwo]
  rfl

/-- All metrics of a class lie between zero and one. -/
structure InRange (m : ClassMetrics ℚ) : Prop where
  precision_mem : m.precision ∈ Set.Icc 0 1
  sensitivity_mem : m.sensitivity ∈ Set.Icc 0 1
  f1_mem : m.f1 ∈ Set.Icc 0 1

/-- What the metrics of a class say about how often it was met, made up and missed. -/
structure Fractions (m : ClassMetrics ℚ) (met madeUp missed : Nat) : Prop
    extends InRange m where
  f1_eq : m.f1 = if 2 * met + madeUp + missed = 0 then 0
    else (2 * met / (2 * met + madeUp + missed) : ℚ)
  f1_between : m.f1 ∈ Set.Icc (min m.precision m.sensitivity)
    (max m.precision m.sensitivity)
  f1_eq_zero_iff : m.f1 = 0 ↔ met = 0
  f1_eq_one_iff : m.f1 = 1 ↔ 0 < met ∧ madeUp = 0 ∧ missed = 0

section counts

variable (met madeUp missed : Nat)

theorem f1_ofCounts :
    (ofCounts met madeUp missed).f1 =
      (2 * met : Nat) / (2 * met + (madeUp + missed) : Nat) := by
  rw [ofCounts]
  push_cast
  rw [add_assoc]

theorem inRange_ofCounts : (ofCounts met madeUp missed).InRange where
  precision_mem := div_add_mem_Icc met madeUp
  sensitivity_mem := div_add_mem_Icc met missed
  f1_mem := f1_ofCounts met madeUp missed ▸ div_add_mem_Icc (2 * met) (madeUp + missed)

theorem fractions_ofCounts :
    (ofCounts met madeUp missed).Fractions met madeUp missed where
  toInRange := inRange_ofCounts met madeUp missed
  f1_eq := by
    split
    · next hzero =>
        obtain rfl : met = 0 := by omega
        simp [ofCounts]
    · rfl
  f1_between := by
    rcases Nat.le_total madeUp missed with h | h
    · obtain ⟨hlow, hhigh⟩ := @harmonicMean_between met _ _ h
      exact ⟨inf_le_of_right_le hlow, le_sup_of_le_left hhigh⟩
    · obtain ⟨hlow, hhigh⟩ := @harmonicMean_between met _ _ h
      rw [add_right_comm] at hlow hhigh
      exact ⟨inf_le_of_left_le hlow, le_sup_of_le_right hhigh⟩
  f1_eq_zero_iff := by
    rw [f1_ofCounts, div_eq_zero_iff, Nat.cast_eq_zero, Nat.cast_eq_zero]
    omega
  f1_eq_one_iff := by
    rw [f1_ofCounts, div_add_eq_one_iff]
    omega

variable {x y : ClassMetrics ℚ}

theorem InRange.exactMean (hx : x.InRange) (hy : y.InRange) :
    (exactMean x y).InRange where
  precision_mem := half_sum_mem_Icc hx.precision_mem hy.precision_mem
  sensitivity_mem := half_sum_mem_Icc hx.sensitivity_mem hy.sensitivity_mem
  f1_mem := half_sum_mem_Icc hx.f1_mem hy.f1_mem

/-- A mean of shares is a whole just if both of them are. -/
theorem InRange.f1_exactMean_eq_one_iff (hx : x.InRange) (hy : y.InRange) :
    (ClassMetrics.exactMean x y).f1 = 1 ↔ x.f1 = 1 ∧ y.f1 = 1 := by
  have hx1 := hx.f1_mem.2
  have hy1 := hy.f1_mem.2
  rw [ClassMetrics.exactMean]
  constructor
  · intro hmean
    constructor
    · linarith
    · linarith
  · rintro ⟨hx, hy⟩
    rw [hx, hy]
    norm_num

end counts

end ClassMetrics

namespace Metrics

def map (f : α → β) (m : Metrics α) : Metrics β where
  accuracy := f m.accuracy
  precision := f m.precision
  sensitivity := f m.sensitivity
  f1 := f m.f1
  confusion := m.confusion
  positive := m.positive.map f
  negative := m.negative.map f
  macroAverage := m.macroAverage.map f

/-- The metrics that follow from the counts, as fractions. -/
def ofCounts (c : Confusion) : Metrics ℚ :=
  let positive :=
    ClassMetrics.ofCounts c.truePositives c.falsePositives c.falseNegatives
  let negative :=
    ClassMetrics.ofCounts c.trueNegatives c.falseNegatives c.falsePositives
  { accuracy := (c.truePositives + c.trueNegatives : Nat) / c.total
    precision := positive.precision
    sensitivity := positive.sensitivity
    f1 := positive.f1
    confusion := c
    positive, negative
    macroAverage := positive.exactMean negative }

/-- None of the metrics asks for a division by zero. -/
theorem ofConfusion_eq (c : Confusion) :
    ofConfusion c = (ofCounts c).map Exact.of := by
  simp only [ofConfusion, ClassMetrics.ofConfusion_eq, ClassMetrics.mean_map,
    Exact.ratio_eq]
  rfl

/-- What metrics say about the lists of codes that they were calculated from. -/
structure Fractions (m : Metrics ℚ) (actual predicted : List Nat) : Prop where
  accuracy_mem : m.accuracy ∈ Set.Icc 0 1
  positive : m.positive.Fractions ((actual.zip predicted).count (1, 1))
    ((actual.zip predicted).count (0, 1)) ((actual.zip predicted).count (1, 0))
  negative : m.negative.Fractions ((actual.zip predicted).count (0, 0))
    ((actual.zip predicted).count (1, 0)) ((actual.zip predicted).count (0, 1))
  macroAverage_inRange : m.macroAverage.InRange
  macroAverage_f1_eq_one_iff :
    m.macroAverage.f1 = 1 ↔ actual = predicted ∧ 0 ∈ actual ∧ 1 ∈ actual

theorem accuracy_ofCounts_mem_Icc (c : Confusion) :
    (ofCounts c).accuracy ∈ Set.Icc 0 1 := by
  have htotal : c.total =
      c.truePositives + c.trueNegatives + (c.falsePositives + c.falseNegatives) := by
    rw [Confusion.total, Nat.add_assoc]
  rw [ofCounts, htotal]
  exact div_add_mem_Icc _ _

end Metrics

section scorable

variable {actual predicted : List Nat}

/-- Lists of binary codes agree where neither class was taken for the other one. -/
theorem Scorable.eq_iff (h : Scorable actual predicted) :
    actual = predicted ↔ (actual.zip predicted).count (0, 1) = 0 ∧
      (actual.zip predicted).count (1, 0) = 0 := by
  rw [List.count_eq_zero, List.count_eq_zero]
  constructor
  · rintro rfl
    have hsame {x y : Nat} (hmem : (x, y) ∈ actual.zip actual) : x = y := by
      obtain ⟨i, hi, heq⟩ := List.mem_iff_getElem.mp hmem
      rw [List.getElem_zip, Prod.mk.injEq] at heq
      exact heq.1.symm.trans heq.2
    constructor
    · exact fun hmem => absurd (hsame hmem) (by decide)
    · exact fun hmem => absurd (hsame hmem) (by decide)
  · rintro ⟨hmadeUp, hmissed⟩
    apply List.ext_getElem h.length_eq
    intro i hi hi'
    have hmem : (actual[i], predicted[i]) ∈ actual.zip predicted :=
      List.mem_iff_getElem.mpr ⟨i, by rw [List.length_zip]; omega, List.getElem_zip⟩
    rcases h.binary _ (List.mem_append_left _ (List.getElem_mem hi)) with ha | ha
    · rcases h.binary _ (List.mem_append_right _ (List.getElem_mem hi')) with hp | hp
      · rw [ha, hp]
      · exact absurd (ha ▸ hp ▸ hmem) hmadeUp
    · rcases h.binary _ (List.mem_append_right _ (List.getElem_mem hi')) with hp | hp
      · exact absurd (ha ▸ hp ▸ hmem) hmissed
      · rw [ha, hp]

/-- Calculated exactly, the metrics of two lists of binary codes never ask for a
division by zero, and they are fractions.  Each class has its own harmonic mean, by how
often its code was met, made up and missed. -/
theorem evaluate_fractions (h : Scorable actual predicted) :
    ∃ m : Metrics ℚ, evaluate actual predicted = .ok (m.map Exact.of) ∧
      m.Fractions actual predicted := by
  have hagree := h.eq_iff
  obtain ⟨truth, guesses, hlength, rfl, rfl⟩ := h.exists_verdicts
  have hcounts := Metrics.counts_ofPairs (α := Exact) hlength
  rw [Metrics.ofPairs] at hcounts
  refine ⟨Metrics.ofCounts (Confusion.ofPairs (truth.zip guesses)), ?_, ?_⟩
  · rw [evaluate_eq_ok hlength, Metrics.ofPairs, Metrics.ofConfusion_eq]
  · generalize Confusion.ofPairs (truth.zip guesses) = c at hcounts
    rw [← hcounts.falsePositives_eq, ← hcounts.falseNegatives_eq] at hagree
    have hpositive := ClassMetrics.fractions_ofCounts c.truePositives c.falsePositives
      c.falseNegatives
    have hnegative := ClassMetrics.fractions_ofCounts c.trueNegatives c.falseNegatives
      c.falsePositives
    constructor
    · exact Metrics.accuracy_ofCounts_mem_Icc c
    · rw [← hcounts.truePositives_eq, ← hcounts.falsePositives_eq,
        ← hcounts.falseNegatives_eq]
      exact hpositive
    · rw [← hcounts.trueNegatives_eq, ← hcounts.falsePositives_eq,
        ← hcounts.falseNegatives_eq]
      exact hnegative
    · exact hpositive.toInRange.exactMean hnegative.toInRange
    · change (ClassMetrics.exactMean _ _).f1 = 1 ↔ _
      rw [hpositive.toInRange.f1_exactMean_eq_one_iff hnegative.toInRange,
        hpositive.f1_eq_one_iff, hnegative.f1_eq_one_iff, hagree,
        ← List.count_pos_iff (a := 0), ← hcounts.negative_eq,
        ← List.count_pos_iff (a := 1), ← hcounts.positive_eq]
      change _ ↔ (c.falsePositives = 0 ∧ c.falseNegatives = 0) ∧
        0 < c.trueNegatives + c.falsePositives ∧ 0 < c.truePositives + c.falseNegatives
      omega

/-- One class was never found, and the other one always. -/
theorem evaluate_fractions_never_found :
    ∃ m : Metrics ℚ, evaluate [1, 0, 0] [0, 0, 0] = .ok (m.map Exact.of) ∧
      m.positive.f1 = 0 ∧ m.negative.f1 = 4 / 5 ∧ m.macroAverage.f1 ≠ 1 := by
  have hscorable : Scorable [1, 0, 0] [0, 0, 0] := ⟨rfl, by decide⟩
  obtain ⟨m, hok, hm⟩ := evaluate_fractions hscorable
  refine ⟨m, hok, hm.positive.f1_eq_zero_iff.mpr (by decide), ?_, ?_⟩
  · rw [hm.negative.f1_eq]
    have hmet : ([1, 0, 0].zip [0, 0, 0]).count (0, 0) = 2 := by decide
    have hmadeUp : ([1, 0, 0].zip [0, 0, 0]).count (1, 0) = 1 := by decide
    have hmissed : ([1, 0, 0].zip [0, 0, 0]).count (0, 1) = 0 := by decide
    rw [hmet, hmadeUp, hmissed]
    norm_num
  · intro hone
    exact absurd (hm.macroAverage_f1_eq_one_iff.mp hone).1 (by decide)

end scorable

end Credence
