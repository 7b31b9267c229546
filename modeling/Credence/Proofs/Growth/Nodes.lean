/-
The questions of a grown tree.  Each of them was chosen for the samples that come to
its node, and both of its sides are grown on the parts of these samples.
-/
import Credence.Proofs.Growth.Candidates
import Credence.Proofs.Growth.Leaves

namespace Credence.Growth

variable (s : GrowthSettings) (columns : List Nat) (samples : List Sample)

/-- The samples that a tree was grown on, as far as they come to a node. -/
def node (turns : List Bool) : List Sample :=
  (grow s columns samples).passing turns samples

/-- The question at a node was chosen for the samples that come there, at a place in
their order, and both sides are grown on the parts of these samples. -/
structure ChosenAt (turns : List Bool) (c : Candidate) (k : Cut) : Prop where
  subtree_eq : (grow s columns samples).subtree? turns =
    some (.split c.feature c.threshold
      (grow (s.below (turns.length + 1)) columns
        (part c (node s columns samples turns)).1)
      (grow (s.below (turns.length + 1)) columns
        (part c (node s columns samples turns)).2))
  chosen : split? s columns (node s columns samples turns) = some c
  taken : c.TakenAt (node s columns samples turns) k

variable {s columns samples}

/-- Each question was chosen at some place. -/
theorem exists_chosenAt {turns : List Bool} {feature : Nat} {threshold : Float}
    {left right : Tree Verdict}
    (h : (grow s columns samples).subtree? turns =
      some (.split feature threshold left right)) :
    ∃ c k, c.feature = feature ∧ c.threshold = threshold ∧
      ChosenAt s columns samples turns c k := by
  obtain ⟨c, hsplit, rfl, rfl, rfl, rfl⟩ :=
    exists_split_of_grow_eq (subtree?_grow s columns h).symm
  have hbest := (of_split?_eq_some hsplit).2.2.2.1
  obtain ⟨hmem, k, htaken⟩ := exists_takenAt_of_bestSplit? hbest
  have hbelow : (s.below turns.length).below 1 = s.below (turns.length + 1) := by
    simp only [GrowthSettings.below, Nat.sub_sub]
  rw [hbelow] at h
  exact ⟨c, k, rfl, rfl, h, hsplit, htaken⟩

theorem ChosenAt.feature_mem {turns : List Bool} {c : Candidate} {k : Cut}
    (h : ChosenAt s columns samples turns c k) : c.feature ∈ columns :=
  (exists_takenAt_of_bestSplit? (of_split?_eq_some h.chosen).2.2.2.1).1

theorem ChosenAt.mem_candidates {turns : List Bool} {c : Candidate} {k : Cut}
    (h : ChosenAt s columns samples turns c k) :
    ∃ feature ∈ columns, c ∈ candidates (node s columns samples turns) feature := by
  rcases mem_of_foldl_better (of_split?_eq_some h.chosen).2.2.2.1 with hnone | hmem
  · cases hnone
  · exact List.mem_flatMap.mp hmem

/-- What is chosen for all samples is the first question of the tree. -/
theorem exists_chosenAt_nil {c : Candidate} (hdepth : s.maxDepth ≠ 0)
    (hsplit : split? s columns samples = some c) :
    ∃ k, ChosenAt s columns samples [] c k := by
  have hroot : (grow s columns samples).subtree? [] =
      some (.split c.feature c.threshold
        (grow (s.below 1) columns (part c samples).1)
        (grow (s.below 1) columns (part c samples).2)) := by
    rw [Tree.subtree?, grow_eq, if_neg hdepth, hsplit]
  obtain ⟨d, k, -, -, hchosen⟩ := exists_chosenAt hroot
  have hother := hchosen.chosen
  rw [node, Tree.passing_nil, hsplit] at hother
  cases hother
  exact ⟨k, hchosen⟩

section sides

variable {c d : Candidate} {k : Cut} {turns : List Bool}

theorem below_below_one (turn : Bool) :
    (s.below 1).below (turns.length + 1) = s.below ((turn :: turns).length + 1) := by
  simp only [GrowthSettings.below, Nat.sub_sub, List.length_cons, Nat.add_comm 1]

/-- The questions on the left of a tree are questions of the tree. -/
theorem ChosenAt.of_left
    (htree : grow s columns samples = .split c.feature c.threshold
      (grow (s.below 1) columns (part c samples).1)
      (grow (s.below 1) columns (part c samples).2))
    (h : ChosenAt (s.below 1) columns (part c samples).1 turns d k) :
    ChosenAt s columns samples (true :: turns) d k := by
  have hnode : node s columns samples (true :: turns) =
      node (s.below 1) columns (part c samples).1 turns := by
    rw [node, htree, passing_left, node]
  refine ⟨?_, hnode ▸ h.chosen, hnode ▸ h.taken⟩
  rw [hnode, htree, Tree.subtree?, h.subtree_eq, below_below_one true]

theorem ChosenAt.of_right
    (htree : grow s columns samples = .split c.feature c.threshold
      (grow (s.below 1) columns (part c samples).1)
      (grow (s.below 1) columns (part c samples).2))
    (h : ChosenAt (s.below 1) columns (part c samples).2 turns d k) :
    ChosenAt s columns samples (false :: turns) d k := by
  have hnode : node s columns samples (false :: turns) =
      node (s.below 1) columns (part c samples).2 turns := by
    rw [node, htree, passing_right, node]
  refine ⟨?_, hnode ▸ h.chosen, hnode ▸ h.taken⟩
  rw [hnode, htree, Tree.subtree?, h.subtree_eq, below_below_one false]

end sides

end Credence.Growth
