/-
What a question gains.  Calculated exactly, the impurity of a node is never below
that of its two parts together, and it is above as soon as the classes do not stand
in one proportion in both.  A tree is grown by impurities that are rounded, so these
may tell of a gain where there is none.
-/
import Mathlib.Algebra.Order.Field.Basic
import Mathlib.Data.Rat.Cast.Order
import Mathlib.Tactic.FieldSimp
import Mathlib.Tactic.Positivity
import Mathlib.Tactic.Ring
import Credence.Proofs.Growth.Nodes

namespace Credence

namespace Tally

variable (t : Tally)

/-- The share of the positive samples. -/
def share : ℚ := t.positive / t.total

/-- The chance that two samples drawn with replacement differ in class, without any
rounding. -/
def gini : ℚ := 1 - t.share * t.share - (1 - t.share) * (1 - t.share)

def join (t u : Tally) : Tally := ⟨t.positive + u.positive, t.total + u.total⟩

end Tally

namespace Growth

theorem tally_append (front back : List Sample) :
    tally (front ++ back) = (tally front).join (tally back) := by
  simp only [tally, Tally.ofVerdicts, Tally.join, List.map_append,
    List.count_append, List.length_append]

namespace Candidate

variable (c : Candidate)

/-- The mean impurity of both parts, without any rounding. -/
def gini : ℚ :=
  (c.left.total * c.left.gini + c.right.total * c.right.gini)
    / (c.left.total + c.right.total)

/-- The classes stand in one proportion in both parts. -/
def KeepsShares : Prop :=
  c.left.positive * c.right.total = c.right.positive * c.left.total

instance : Decidable c.KeepsShares := inferInstanceAs (Decidable (_ = _))

variable {c}

/-- What is gained grows with how far the shares of both parts are from each other. -/
theorem gini_join_sub (hleft : 0 < c.left.total) (hright : 0 < c.right.total) :
    (c.left.join c.right).gini - c.gini =
      2 * (c.left.total * c.right.total) * (c.left.share - c.right.share) ^ 2
        / (c.left.total + c.right.total) ^ 2 := by
  have hl : (0 : ℚ) < c.left.total := Nat.cast_pos.mpr hleft
  have hr : (0 : ℚ) < c.right.total := Nat.cast_pos.mpr hright
  simp only [gini, Tally.gini, Tally.share, Tally.join, Nat.cast_add]
  field_simp
  ring

theorem keepsShares_iff (hleft : 0 < c.left.total) (hright : 0 < c.right.total) :
    c.KeepsShares ↔ c.left.share = c.right.share := by
  have hl : (c.left.total : ℚ) ≠ 0 := Nat.cast_ne_zero.mpr hleft.ne'
  have hr : (c.right.total : ℚ) ≠ 0 := Nat.cast_ne_zero.mpr hright.ne'
  rw [KeepsShares, Tally.share, Tally.share, div_eq_div_iff hl hr]
  exact_mod_cast Iff.rfl

/-- Exactly calculated, no way to part samples adds impurity. -/
theorem gini_le (hleft : 0 < c.left.total) (hright : 0 < c.right.total) :
    c.gini ≤ (c.left.join c.right).gini := by
  rw [← sub_nonneg, gini_join_sub hleft hright]
  positivity

theorem gini_lt_iff (hleft : 0 < c.left.total) (hright : 0 < c.right.total) :
    c.gini < (c.left.join c.right).gini ↔ ¬ c.KeepsShares := by
  rw [keepsShares_iff hleft hright]
  constructor
  · intro hlt hshares
    have hgain := gini_join_sub hleft hright
    rw [hshares, sub_self, zero_pow two_ne_zero, mul_zero, zero_div] at hgain
    exact absurd (sub_eq_zero.mp hgain).symm hlt.ne
  · intro hshares
    have hdiffer := sub_ne_zero.mpr hshares
    rw [← sub_pos, gini_join_sub hleft hright]
    positivity

variable {samples : List Sample} {k : Cut}

theorem TakenAt.join_eq (h : c.TakenAt samples k) :
    c.left.join c.right = tally samples := by
  rw [h.left_eq, h.right_eq, ← tally_append, ← h.inOrder_eq]
  exact tally_perm (inOrder_perm samples c.feature)

theorem TakenAt.gini_le (h : c.TakenAt samples k) : c.gini ≤ (tally samples).gini := by
  rw [← h.join_eq]
  exact Candidate.gini_le h.left_pos h.right_pos

/-- A way that was found gains just if it changes the shares. -/
theorem TakenAt.gini_lt_iff (h : c.TakenAt samples k) :
    c.gini < (tally samples).gini ↔ ¬ c.KeepsShares := by
  rw [← h.join_eq]
  exact Candidate.gini_lt_iff h.left_pos h.right_pos

end Candidate

variable (s : GrowthSettings) (columns : List Nat) (samples : List Sample)

/-- A tree whose questions all gain, by what is counted at their nodes. -/
structure Gaining : Prop where
  exists_gini_lt : ∀ turns feature threshold left right,
    (grow s columns samples).subtree? turns =
        some (.split feature threshold left right) →
      ∃ c k, c.feature = feature ∧ c.threshold = threshold ∧
        ChosenAt s columns samples turns c k ∧
        c.gini < (tally (node s columns samples turns)).gini
  /-- Where no way to part the samples of a node changes the shares, no question is
  asked. -/
  exists_leaf : ∀ turns t, (grow s columns samples).subtree? turns = some t →
    (∀ feature ∈ columns,
      ∀ c ∈ candidates (node s columns samples turns) feature, c.KeepsShares) →
    ∃ v, t = .leaf v

variable {s columns samples}

theorem Gaining.not_keepsShares (h : Gaining s columns samples) {turns : List Bool}
    {c : Candidate} {k : Cut} (hchosen : ChosenAt s columns samples turns c k) :
    ¬ c.KeepsShares := by
  obtain ⟨d, j, -, -, hother, hlt⟩ :=
    h.exists_gini_lt turns _ _ _ _ hchosen.subtree_eq
  obtain rfl : d = c := Option.some.inj (hother.chosen.symm.trans hchosen.chosen)
  exact hother.taken.gini_lt_iff.mp hlt

/-- The questions of a tree all gain just when none was chosen that keeps the shares,
and even such a question adds no impurity. -/
theorem gaining_iff_and_gini_le :
    (Gaining s columns samples ↔
      ∀ turns c k, ChosenAt s columns samples turns c k → ¬ c.KeepsShares) ∧
    (∀ turns c k, ChosenAt s columns samples turns c k →
      c.gini ≤ (tally (node s columns samples turns)).gini) := by
  refine ⟨⟨?_, ?_⟩, ?_⟩
  · intro hgaining turns c k hchosen
    exact hgaining.not_keepsShares hchosen
  · intro hshifts
    constructor
    · intro turns feature threshold left right hsplit
      obtain ⟨c, k, hfeature, hthreshold, hchosen⟩ := exists_chosenAt hsplit
      refine ⟨c, k, hfeature, hthreshold, hchosen, ?_⟩
      exact hchosen.taken.gini_lt_iff.mpr (hshifts turns c k hchosen)
    · intro turns t hsubtree hkeeps
      rcases t with v | ⟨feature, threshold, left, right⟩
      · exact ⟨v, rfl⟩
      · obtain ⟨c, k, -, -, hchosen⟩ := exists_chosenAt hsubtree
        obtain ⟨i, hi, hmem⟩ := hchosen.mem_candidates
        exact absurd (hkeeps i hi c hmem) (hshifts turns c k hchosen)
  · intro turns c k hchosen
    exact hchosen.taken.gini_le

/-- Two values, with two positive samples of five at one of them and with four of ten
at the other. -/
def evenShares : List Sample :=
  List.replicate 2 ⟨#[0.0], .positive⟩ ++ List.replicate 3 ⟨#[0.0], .negative⟩ ++
    List.replicate 4 ⟨#[1.0], .positive⟩ ++ List.replicate 6 ⟨#[1.0], .negative⟩

/-- The mean of two impurities may be rounded below both of them. -/
theorem not_gaining : ¬ Gaining .standard [0] evenShares := by
  have hsplit : split? .standard [0] evenShares =
      some ⟨0, 0.5, ⟨2, 5⟩, ⟨4, 10⟩⟩ := by
    simp only [split?, bestSplit?, List.flatMap_cons, List.flatMap_nil]
    rw [candidates_of_pairwise _ _ (by decide +kernel)]
    decide +kernel
  obtain ⟨k, hchosen⟩ := exists_chosenAt_nil (by decide) hsplit
  intro hgaining
  exact hgaining.not_keepsShares hchosen (by decide)

end Growth

end Credence
