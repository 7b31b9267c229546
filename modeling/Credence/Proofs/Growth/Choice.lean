/-
Which way to part is chosen.  Impurities of samples that can be counted are numbers, and
so the best way is well defined: the first one that is better than all before it and
that no later one improves on.
-/
import Credence.Proofs.Growth.Candidates
import Credence.Proofs.Number.Range

namespace Credence

open Number

section impurity

variable {t : Tally}

/-- Counts that a machine word can hold. -/
structure Tally.Countable (t : Tally) : Prop where
  positive_le : t.positive ≤ t.total
  total_le : t.total ≤ maxCount

theorem Tally.Countable.total_le_two_pow (h : t.Countable) : t.total ≤ 2 ^ 64 :=
  h.total_le.trans (by decide)

/-- How small impurities are does not matter here, but that they do not overflow. -/
theorem Tally.Countable.within_impurity (h : t.Countable) : Within t.impurity 131 := by
  rw [Tally.impurity]
  split
  · exact within_zero 131
  · next hne =>
      have htotal := h.total_le_two_pow
      have hpositive := within_ofNat (h.positive_le.trans htotal) (by decide)
      have hall := within_ofNat htotal (by decide)
      have hone := one_le_value_ofNat htotal (by decide) (Nat.pos_of_ne_zero hne)
      have hshare := hpositive.div hall.isFinite hone (by decide)
      have hsquare := hshare.mul hshare (by decide)
      have hrest := (within_one.mono (Nat.zero_le 64)).sub hshare (by decide)
      have hfirst := (within_one.mono (Nat.zero_le 128)).sub hsquare (by decide)
      have hsecond := hrest.mul hrest (by decide)
      exact (hfirst.mono (by decide)).sub hsecond (by decide)

theorem Tally.Countable.within_weightedImpurity (h : t.Countable) :
    Within t.weightedImpurity 195 :=
  (within_ofNat h.total_le_two_pow (by decide)).mul h.within_impurity (by decide)

/-- One less the squares of the shares of both classes, in doubles. -/
def Tally.roundedGini (t : Tally) : Float :=
  let share := Float.ofNat t.positive / Float.ofNat t.total
  1.0 - share * share - (1.0 - share) * (1.0 - share)

theorem Tally.weightedImpurity_eq (h : 0 < t.total) :
    t.weightedImpurity = Float.ofNat t.total * t.roundedGini := by
  rw [weightedImpurity, impurity, if_neg h.ne']
  rfl

end impurity

namespace Growth

theorem tally_positive_le (samples : List Sample) :
    (tally samples).positive ≤ (tally samples).total := by
  rw [tally_positive, tally_total]
  exact List.countP_le_length

/-- The impurity of a way to part, written out. -/
theorem Candidate.TakenAt.impurity_eq {c : Candidate} {samples : List Sample} {k : Cut}
    (h : c.TakenAt samples k) :
    c.impurity =
      (Float.ofNat c.left.total * c.left.roundedGini +
        Float.ofNat c.right.total * c.right.roundedGini) /
      Float.ofNat samples.length := by
  rw [Candidate.impurity, Tally.weightedImpurity_eq h.left_pos,
    Tally.weightedImpurity_eq h.right_pos, h.total_add]

/-- The impurity of a way to part is a number. -/
theorem isNaN_impurity {samples : List Sample} {feature : Nat} {c : Candidate}
    (h : c ∈ candidates samples feature) (hcount : samples.length ≤ maxCount) :
    c.impurity.isNaN = false := by
  obtain ⟨-, k, htaken⟩ := exists_takenAt_of_mem_candidates h
  have hsum := htaken.total_add
  have hpos : 0 < c.left.total + c.right.total := Nat.add_pos_left htaken.left_pos _
  have hleft : c.left.Countable := by
    refine ⟨?_, by omega⟩
    rw [htaken.left_eq]
    exact tally_positive_le k.front
  have hright : c.right.Countable := by
    refine ⟨?_, by omega⟩
    rw [htaken.right_eq]
    exact tally_positive_le k.back
  have hall : c.left.total + c.right.total ≤ 2 ^ 64 :=
    hsum.trans_le (hcount.trans (by decide))
  have hone := one_le_value_ofNat hall (by decide) hpos
  have hfinite := (within_ofNat hall (by decide)).isFinite
  have hmean := hleft.within_weightedImpurity.add hright.within_weightedImpurity (by decide)
  exact (hmean.div hfinite hone (by decide)).isNaN

section choice

variable {cs : List Candidate} {b c : Candidate}

/-- The way that is kept when a list is gone through: it is better than all before it,
and no later one is better. -/
def FirstBest (cs : List Candidate) (c : Candidate) : Prop :=
  ∃ front back, cs = front ++ c :: back ∧ (∀ b ∈ front, c.impurity < b.impurity) ∧
    ∀ b ∈ back, ¬ b.impurity < c.impurity

theorem foldl_better_some (h : ∀ b ∈ cs, ¬ b.impurity < c.impurity) :
    cs.foldl better (some c) = some c := by
  induction cs with
  | nil => rfl
  | cons b cs ih =>
      obtain ⟨hb, hcs⟩ := List.forall_mem_cons.mp h
      rw [List.foldl_cons, better, if_neg hb]
      exact ih hcs

theorem FirstBest.foldl_eq (h : FirstBest cs c) : cs.foldl better none = some c := by
  obtain ⟨front, back, rfl, hfront, hback⟩ := h
  have hstep : better (front.foldl better none) c = some c := by
    cases hbest : front.foldl better none with
    | none => rfl
    | some b =>
        have hmem := (mem_of_foldl_better hbest).resolve_left nofun
        exact if_pos (hfront b hmem)
  rw [List.foldl_append, List.foldl_cons, hstep]
  exact foldl_better_some hback

theorem isSome_foldl_better (cs : List Candidate) (b : Candidate) :
    (cs.foldl better (some b)).isSome = true := by
  induction cs generalizing b with
  | nil => rfl
  | cons c cs ih =>
      rw [List.foldl_cons, better]
      split
      · exact ih c
      · exact ih b

theorem foldl_better_eq_none_iff : cs.foldl better none = none ↔ cs = [] := by
  constructor
  · intro hnone
    rcases cs with _ | ⟨c, cs⟩
    · rfl
    · exact absurd hnone (Option.isSome_iff_ne_none.mp (isSome_foldl_better cs c))
  · rintro rfl
    rfl

variable (hnumbers : ∀ c ∈ cs, c.impurity.isNaN = false)

include hnumbers

/-- No way in the list is better. -/
theorem FirstBest.le (h : FirstBest cs c) (hb : b ∈ cs) : c.impurity ≤ b.impurity := by
  have hbnan := hnumbers b hb
  obtain ⟨front, back, rfl, hfront, hback⟩ := h
  have hcnan := hnumbers c (List.mem_append_right _ List.mem_cons_self)
  rcases List.mem_append.mp hb with hmem | hmem
  · exact Number.le_of_lt (hfront b hmem)
  · rw [Number.le_iff hcnan hbnan]
    rcases List.mem_cons.mp hmem with rfl | hlater
    · exact le_rfl
    · have hnot := hback b hlater
      rw [Number.lt_iff hbnan hcnan] at hnot
      omega

/-- Going through the list keeps the first of the best. -/
theorem foldl_better_eq_some_iff : cs.foldl better none = some c ↔ FirstBest cs c := by
  refine ⟨?_, FirstBest.foldl_eq⟩
  induction cs using List.reverseRecOn generalizing c with
  | nil => nofun
  | append_singleton cs a ih =>
      have hcs : ∀ b ∈ cs, b.impurity.isNaN = false := by
        intro b hb
        exact hnumbers b (List.mem_append_left _ hb)
      intro hbest
      rw [List.foldl_append, List.foldl_cons, List.foldl_nil] at hbest
      cases hfound : cs.foldl better none with
      | none =>
          rw [hfound] at hbest
          cases hbest
          rw [foldl_better_eq_none_iff.mp hfound]
          exact ⟨[], [], rfl, nofun, nofun⟩
      | some b =>
          have hfirst := ih hcs hfound
          rw [hfound, better] at hbest
          split at hbest
          · next hlt =>
              cases hbest
              refine ⟨cs, [], rfl, ?_, nofun⟩
              intro d hd
              exact Number.lt_of_lt_of_le hlt (hfirst.le hcs hd)
          · next hnot =>
              cases hbest
              obtain ⟨front, back, rfl, hfront, hback⟩ := hfirst
              refine ⟨front, back ++ [a], by simp, hfront, ?_⟩
              intro d hd
              rcases List.mem_append.mp hd with hmem | hlast
              · exact hback d hmem
              · rw [List.mem_singleton.mp hlast]
                exact hnot

end choice

end Growth

end Credence
