/-
How a tree is grown, node by node: what the counts of a node are, which samples go
which way at a split, and that every side of a split is a tree grown on its part.
All facts about grown trees rest on these.
-/
import Mathlib.Data.List.Basic
import Credence.Classifier.Growth

namespace Credence

/-- The settings some questions further down. -/
def GrowthSettings.below (s : GrowthSettings) (questions : Nat) :
    GrowthSettings :=
  { s with maxDepth := s.maxDepth - questions }

namespace Growth

section tally

variable (samples : List Sample)

/-- How many of some samples are of a class. -/
def countOf (v : Verdict) : Nat := samples.countP fun x => x.verdict = v

theorem tally_positive : (tally samples).positive = countOf samples .positive := by
  simp only [tally, Tally.ofVerdicts, countOf, List.count_eq_countP,
    List.countP_map]
  congr 1

@[simp] theorem tally_total : (tally samples).total = samples.length := by
  simp [tally, Tally.ofVerdicts]

/-- Each sample is of one of the two classes. -/
theorem countOf_add :
    countOf samples .positive + countOf samples .negative = samples.length := by
  induction samples with
  | nil => rfl
  | cons x samples ih =>
      simp only [countOf, List.countP_cons, List.length_cons] at ih ⊢
      rcases hverdict : x.verdict with _ | _
      · simp
        omega
      · simp
        omega

theorem tally_negative : (tally samples).negative = countOf samples .negative := by
  have hadd := countOf_add samples
  rw [Tally.negative, tally_positive, tally_total]
  omega

/-- The positive class wins a tie, and also where there is nothing to count. -/
theorem vote_eq_positive_iff :
    vote samples = .positive ↔
      countOf samples .negative ≤ countOf samples .positive := by
  rw [vote, Tally.majority, tally_negative, tally_positive]
  split
  · next hle => exact iff_of_true rfl hle
  · next hlt => exact iff_of_false nofun hlt

end tally

section part

variable (c : Candidate) (samples : List Sample)

theorem part_fst :
    (part c samples).1 =
      samples.filter fun x =>
        Tree.goesLeft c.feature c.threshold x.features := by
  rw [part, List.partition_eq_filter_filter]

theorem part_snd :
    (part c samples).2 =
      samples.filter fun x =>
        !Tree.goesLeft c.feature c.threshold x.features := by
  rw [part, List.partition_eq_filter_filter]
  rfl

/-- Both parts together are the samples of the node. -/
theorem part_perm : ((part c samples).1 ++ (part c samples).2).Perm samples := by
  rw [part_fst, part_snd]
  exact List.filter_append_perm _ samples

theorem length_part :
    (part c samples).1.length + (part c samples).2.length = samples.length := by
  rw [← List.length_append]
  exact (part_perm c samples).length_eq

theorem countP_part (p : Sample → Bool) :
    (part c samples).1.countP p + (part c samples).2.countP p =
      samples.countP p := by
  rw [← List.countP_append]
  exact (part_perm c samples).countP_eq p

theorem part_fst_subset : (part c samples).1 ⊆ samples := by
  rw [part_fst]
  exact List.filter_subset_self _

theorem part_snd_subset : (part c samples).2 ⊆ samples := by
  rw [part_snd]
  exact List.filter_subset_self _

end part

section grow

variable (s : GrowthSettings) (columns : List Nat)

/-- How deep a tree may become does not change what is done at a node. -/
theorem parts_below (questions depth : Nat) (samples : List Sample) :
    parts (s.below questions) columns depth samples =
      parts s columns depth samples := by
  induction depth generalizing samples with
  | zero => rfl
  | succ depth ih =>
      simp only [parts, ih]
      rfl

/-- A tree is one vote, or a question with a tree for each answer. -/
theorem grow_eq (samples : List Sample) :
    grow s columns samples =
      if s.maxDepth = 0 then .leaf (vote samples)
      else
        match split? s columns samples with
        | none => .leaf (vote samples)
        | some c =>
            .split c.feature c.threshold
              (grow (s.below 1) columns (part c samples).1)
              (grow (s.below 1) columns (part c samples).2) := by
  simp only [grow, parts_below]
  rcases hdepth : s.maxDepth with _ | depth
  · rfl
  · rw [if_neg (Nat.succ_ne_zero depth), parts, GrowthSettings.below, hdepth]
    rcases split? s columns samples with _ | c
    · rfl
    · rfl

/-- What a vote is like, and what a question passes on from both sides, holds of all
grown trees. -/
theorem grow_induction {motive : List Sample → Tree Verdict → Prop}
    (leaf : ∀ samples, motive samples (.leaf (vote samples)))
    (split : ∀ samples c left right, split? s columns samples = some c →
      motive (part c samples).1 left → motive (part c samples).2 right →
      motive samples (.split c.feature c.threshold left right))
    (samples : List Sample) : motive samples (grow s columns samples) := by
  rw [grow]
  generalize s.maxDepth = depth
  induction depth generalizing samples with
  | zero => exact leaf samples
  | succ depth ih =>
      rw [parts]
      split
      · exact leaf samples
      · next c hsome =>
          apply split samples c _ _ hsome
          · exact ih (part c samples).1
          · exact ih (part c samples).2

variable {s columns} {samples : List Sample}

theorem eq_vote_of_grow_eq {v : Verdict}
    (h : grow s columns samples = .leaf v) : v = vote samples := by
  rw [grow_eq] at h
  split at h
  · exact (Tree.leaf.inj h).symm
  · split at h
    · exact (Tree.leaf.inj h).symm
    · cases h

theorem exists_split_of_grow_eq {feature : Nat} {threshold : Float}
    {left right : Tree Verdict}
    (h : grow s columns samples = .split feature threshold left right) :
    ∃ c, split? s columns samples = some c ∧ c.feature = feature ∧
      c.threshold = threshold ∧
      left = grow (s.below 1) columns (part c samples).1 ∧
      right = grow (s.below 1) columns (part c samples).2 := by
  rw [grow_eq] at h
  split at h
  · cases h
  · split at h
    · cases h
    · next c hsome =>
        cases h
        exact ⟨c, hsome, rfl, rfl, rfl, rfl⟩

end grow

end Growth

end Credence
