/-
Which samples come to which node of a grown tree.  Growing hands the samples of a
node on to its two parts, and a row of features walks down the finished tree on its
own; both take the same turns.  So every leaf votes for the samples that reach it,
and no tree is worse on its samples than one vote of all of them.
-/
import Credence.Proofs.Growth

namespace Credence

variable {α : Type}

namespace Tree

/-- The turns of a row on its way to a leaf: `true` for each one to the left. -/
def route (row : Features) : Tree α → List Bool
  | leaf _ => []
  | split feature threshold left right =>
      if goesLeft feature threshold row then true :: left.route row
      else false :: right.route row

/-- What hangs from the node that some turns lead to, if they lead to one. -/
def subtree? : Tree α → List Bool → Option (Tree α)
  | t, [] => some t
  | leaf _, _ :: _ => none
  | split _ _ left _, true :: turns => left.subtree? turns
  | split _ _ _ right, false :: turns => right.subtree? turns

/-- A row gets the answer of the leaf that it reaches. -/
theorem subtree?_route (row : Features) (t : Tree α) :
    t.subtree? (t.route row) = some (.leaf (t.classify row)) := by
  induction t with
  | leaf answer => rfl
  | split feature threshold left right ihl ihr =>
      simp only [route, classify]
      split
      · exact ihl
      · exact ihr

/-- The samples that come through the node at the end of some turns. -/
def passing (t : Tree α) (turns : List Bool) (samples : List Sample) :
    List Sample :=
  samples.filter fun x => turns <+: t.route x.features

theorem passing_nil (t : Tree α) (samples : List Sample) :
    t.passing [] samples = samples := by
  simp [passing]

/-- The samples that reach the leaf at the end of some turns. -/
def reaching (t : Tree α) (turns : List Bool) (samples : List Sample) :
    List Sample :=
  samples.filter fun x => t.route x.features = turns

/-- No way leads on from a leaf. -/
theorem prefix_route_iff {t : Tree α} {turns : List Bool} {answer : α}
    (h : t.subtree? turns = some (.leaf answer)) (row : Features) :
    turns <+: t.route row ↔ t.route row = turns := by
  induction t generalizing turns with
  | leaf other =>
      rcases turns with _ | ⟨turn, turns⟩
      · simp [route]
      · cases h
  | split feature threshold left right ihl ihr =>
      rcases turns with _ | ⟨_ | _, turns⟩
      · cases h
      · rw [route]
        split
        · simp
        · simp [ihr h]
      · rw [route]
        split
        · simp [ihl h]
        · simp

theorem passing_eq_reaching {t : Tree α} {turns : List Bool} {answer : α}
    (h : t.subtree? turns = some (.leaf answer)) (samples : List Sample) :
    t.passing turns samples = t.reaching turns samples := by
  apply List.filter_congr
  intro x _
  rw [decide_eq_decide]
  exact prefix_route_iff h x.features

/-- How many of some samples a tree gives their own class. -/
def hits (t : Tree Verdict) (samples : List Sample) : Nat :=
  samples.countP fun x => t.classify x.features = x.verdict

/-- A tree that votes for some samples, leaf by leaf. -/
structure VotesFor (t : Tree Verdict) (samples : List Sample) : Prop where
  /-- Each leaf has the class of most samples that reach it; in a tie, and where
  no sample comes, the positive one. -/
  eq_positive_iff : ∀ turns verdict, t.subtree? turns = some (.leaf verdict) →
    (verdict = .positive ↔
      Growth.countOf (t.reaching turns samples) .negative ≤
        Growth.countOf (t.reaching turns samples) .positive)
  /-- The leaf that a row reaches is the one that answers for it. -/
  subtree?_route : ∀ row,
    t.subtree? (t.route row) = some (.leaf (t.classify row))
  max_le_hits :
    max (Growth.countOf samples .positive) (Growth.countOf samples .negative) ≤
      t.hits samples

end Tree

namespace Growth

section split

variable (c : Candidate) (left right : Tree α) (samples : List Sample)
  (turns : List Bool)

theorem passing_left :
    (Tree.split c.feature c.threshold left right).passing (true :: turns)
        samples =
      left.passing turns (part c samples).1 := by
  rw [part_fst, Tree.passing, Tree.passing, List.filter_filter]
  apply List.filter_congr
  intro x _
  rw [Tree.route]
  split
  · next hleft => simp [hleft]
  · next hright => simp [hright]

theorem passing_right :
    (Tree.split c.feature c.threshold left right).passing (false :: turns)
        samples =
      right.passing turns (part c samples).2 := by
  rw [part_snd, Tree.passing, Tree.passing, List.filter_filter]
  apply List.filter_congr
  intro x _
  rw [Tree.route]
  split
  · next hleft => simp [hleft]
  · next hright => simp [hright]

/-- A split hits what its two sides hit on the parts that they are given. -/
theorem hits_split (left right : Tree Verdict) :
    (Tree.split c.feature c.threshold left right).hits samples =
      left.hits (part c samples).1 + right.hits (part c samples).2 := by
  rw [Tree.hits, ← countP_part c samples]
  congr 1
  · apply List.countP_congr
    intro x hx
    rw [part_fst, List.mem_filter] at hx
    rw [Tree.classify, if_pos hx.2]
  · apply List.countP_congr
    intro x hx
    rw [part_snd, List.mem_filter, Bool.not_eq_true'] at hx
    rw [Tree.classify, hx.2, if_neg Bool.false_ne_true]

end split

section grow

variable (s : GrowthSettings) (columns : List Nat)

/-- What hangs from a node is a tree grown on the samples that come through it. -/
theorem subtree?_grow {samples : List Sample} {turns : List Bool}
    {t : Tree Verdict} (h : (grow s columns samples).subtree? turns = some t) :
    t = grow (s.below turns.length) columns
      ((grow s columns samples).passing turns samples) := by
  induction turns generalizing s samples with
  | nil =>
      rw [Tree.subtree?] at h
      rw [Tree.passing_nil]
      exact (Option.some.inj h).symm
  | cons turn turns ih =>
      rcases htree : grow s columns samples with v | ⟨feature, threshold, l, r⟩
      · rw [htree, Tree.subtree?] at h
        cases h
      · obtain ⟨c, -, rfl, rfl, rfl, rfl⟩ := exists_split_of_grow_eq htree
        have hbelow : (s.below 1).below turns.length =
            s.below (turns.length + 1) := by
          simp only [GrowthSettings.below, Nat.sub_sub, Nat.add_comm 1]
        rw [htree] at h
        rw [List.length_cons, ← hbelow]
        rcases turn with _ | _
        · rw [passing_right]
          exact ih (s.below 1) h
        · rw [passing_left]
          exact ih (s.below 1) h

/-- A vote hits the samples of the class that has most of them. -/
theorem hits_vote (samples : List Sample) :
    (Tree.leaf (vote samples)).hits samples =
      max (countOf samples .positive) (countOf samples .negative) := by
  have hcount (v : Verdict) : (Tree.leaf v).hits samples = countOf samples v := by
    apply List.countP_congr
    intro x _
    rw [Tree.classify, decide_eq_true_iff, decide_eq_true_iff, eq_comm]
  rw [hcount]
  rcases hvote : vote samples with _ | _
  · have hlt : ¬ countOf samples .negative ≤ countOf samples .positive := by
      rw [← vote_eq_positive_iff, hvote]
      intro hsame
      cases hsame
    omega
  · have hle := (vote_eq_positive_iff samples).mp hvote
    omega

/-- Asking loses no hits: what each side gains over its own majority is gained over
the majority of all samples, too. -/
theorem max_le_hits_grow (samples : List Sample) :
    max (countOf samples .positive) (countOf samples .negative) ≤
      (grow s columns samples).hits samples := by
  induction samples using grow_induction s columns with
  | leaf samples => exact Nat.le_of_eq (hits_vote samples).symm
  | split samples c left right _ hleft hright =>
      have hpositive : _ = countOf samples .positive := countP_part c samples _
      have hnegative : _ = countOf samples .negative := countP_part c samples _
      rw [hits_split]
      simp only [countOf] at *
      omega

/-- However a tree is grown, its leaves vote for the samples that reach them. -/
theorem grow_votesFor (samples : List Sample) :
    (grow s columns samples).VotesFor samples where
  eq_positive_iff := by
    intro turns verdict hleaf
    have hgrown := subtree?_grow s columns hleaf
    rw [eq_vote_of_grow_eq hgrown.symm, Tree.passing_eq_reaching hleaf]
    exact vote_eq_positive_iff _
  subtree?_route := fun row => Tree.subtree?_route row _
  max_le_hits := max_le_hits_grow s columns samples

end grow

end Growth

end Credence
