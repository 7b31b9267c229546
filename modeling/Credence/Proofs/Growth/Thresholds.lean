/-
When a question parts samples as they were counted for it.  The classes are counted
in front of a place in the order of the samples, but the samples are parted by the
mean of the two values there.  Both agree as long as that mean, as it is rounded,
lies between the two values; then no side of a question is empty, and a tree has no
more leaves than samples.  Values that are neither next to each other nor too large
always have such a mean.
-/
import Credence.Proofs.Growth.Nodes
import Credence.Proofs.Number.Midpoint

namespace Credence.Growth

/-- The threshold keeps the two neighbours of a place apart. -/
def Candidate.Separates (c : Candidate) (k : Cut) : Prop :=
  k.last.features.column c.feature ≤ c.threshold ∧
    c.threshold < k.first.features.column c.feature

/-- Samples are parted as they were counted for a place in their order. -/
structure Candidate.RealisedAt (c : Candidate) (samples : List Sample) (k : Cut) :
    Prop where
  length_left : (part c samples).1.length = k.position + 1
  left_perm : (part c samples).1.Perm k.front
  right_perm : (part c samples).2.Perm k.back
  tally_left : tally (part c samples).1 = c.left
  tally_right : tally (part c samples).2 = c.right
  left_ne_nil : (part c samples).1 ≠ []
  right_ne_nil : (part c samples).2 ≠ []
  left_lt : (part c samples).1.length < samples.length
  right_lt : (part c samples).2.length < samples.length

section place

variable {c : Candidate} {samples : List Sample} {k : Cut}

/-- No feature that is asked for is undefined. -/
def Numbers (columns : List Nat) (samples : List Sample) : Prop :=
  ∀ x ∈ samples, ∀ feature ∈ columns,
    (x.features.column feature).isNaN = false

theorem Numbers.mono {columns : List Nat} {others : List Sample}
    (h : Numbers columns samples) (hsub : others ⊆ samples) :
    Numbers columns others := by
  intro x hx
  exact h x (hsub hx)

theorem Numbers.column {columns : List Nat} (h : Numbers columns samples) {feature : Nat}
    (hfeature : feature ∈ columns) : Numbers [feature] samples := by
  intro x hx other hother
  rw [List.mem_singleton.mp hother]
  exact h x hx feature hfeature

theorem Candidate.TakenAt.perm (h : c.TakenAt samples k) :
    (k.front ++ k.back).Perm samples := by
  rw [← h.inOrder_eq]
  exact inOrder_perm samples c.feature

theorem Candidate.TakenAt.last_mem (h : c.TakenAt samples k) : k.last ∈ samples := by
  apply h.perm.mem_iff.mp
  exact List.mem_append_left _ (List.mem_append_right _ List.mem_cons_self)

theorem Candidate.TakenAt.first_mem (h : c.TakenAt samples k) : k.first ∈ samples := by
  apply h.perm.mem_iff.mp
  exact List.mem_append_right _ List.mem_cons_self

/-- Samples whose feature is a number stand in the order of the numbers. -/
theorem inOrder_pairwise_le {feature : Nat} (hnumbers : Numbers [feature] samples) :
    (inOrder samples feature).Pairwise fun x y =>
      x.features.column feature ≤ y.features.column feature := by
  apply (inOrder_pairwise samples feature).imp_of_mem
  intro x y hx hy hle
  have hmem (z : Sample) (hz : z ∈ inOrder samples feature) :=
    hnumbers z ((inOrder_perm samples feature).mem_iff.mp hz) feature List.mem_cons_self
  exact Number.le_of_totalLe (hmem x hx) (hmem y hy) hle

/-- The values in front of a place are not above those behind it. -/
theorem Candidate.TakenAt.pairwise (h : c.TakenAt samples k)
    (hnumbers : Numbers [c.feature] samples) :
    (k.front ++ k.back).Pairwise fun x y =>
      x.features.column c.feature ≤ y.features.column c.feature := by
  rw [← h.inOrder_eq]
  exact inOrder_pairwise_le hnumbers

/-- As many samples go to the left as in their order. -/
theorem Candidate.TakenAt.length_part_fst (h : c.TakenAt samples k) :
    (part c samples).1.length =
      (k.front ++ k.back).countP fun x =>
        Tree.goesLeft c.feature c.threshold x.features := by
  rw [part_fst, ← List.countP_eq_length_filter]
  exact (h.perm.countP_eq _).symm

/-- Between two neighbours, a bound parts samples in order at their place. -/
theorem Cut.filter_le (k : Cut) {feature : Nat} {bound : Float}
    (hpairwise : (k.front ++ k.back).Pairwise fun x y =>
      x.features.column feature ≤ y.features.column feature)
    (hlast : k.last.features.column feature ≤ bound)
    (hfirst : bound < k.first.features.column feature) :
    (k.front ++ k.back).filter (fun x => x.features.column feature ≤ bound) = k.front ∧
      (k.front ++ k.back).filter (fun x => ¬ x.features.column feature ≤ bound) =
        k.back := by
  have hleft : ∀ x ∈ k.front, decide (x.features.column feature ≤ bound) = true := by
    intro x hx
    apply decide_eq_true
    rcases List.mem_append.mp hx with hbefore | hself
    · apply Number.le_trans _ hlast
      have hfront := (List.pairwise_append.mp hpairwise).1
      exact (List.pairwise_append.mp hfront).2.2 x hbefore k.last List.mem_cons_self
    · rw [List.mem_singleton.mp hself]
      exact hlast
  have hright : ∀ x ∈ k.back, decide (x.features.column feature ≤ bound) = false := by
    intro x hx
    apply decide_eq_false
    apply Number.not_le_of_lt
    rcases List.mem_cons.mp hx with rfl | hafter
    · exact hfirst
    · apply Number.lt_of_lt_of_le hfirst
      have hback := (List.pairwise_append.mp hpairwise).2.1
      exact List.rel_of_pairwise_cons hback hafter
  constructor
  · rw [List.filter_append, List.filter_eq_self.mpr hleft,
      List.filter_eq_nil_iff.mpr (by simpa using hright), List.append_nil]
  · rw [List.filter_append, List.filter_eq_nil_iff.mpr (by simpa using hleft),
      List.filter_eq_self.mpr (by simpa using hright), List.nil_append]

/-- A threshold that keeps the neighbours apart keeps all others apart as well. -/
theorem Candidate.Separates.realisedAt (hseparates : c.Separates k)
    (h : c.TakenAt samples k) (hnumbers : Numbers [c.feature] samples) :
    c.RealisedAt samples k := by
  obtain ⟨hleft, hright⟩ :=
    k.filter_le (h.pairwise hnumbers) hseparates.1 hseparates.2
  have hfst : (part c samples).1.Perm k.front := by
    rw [part_fst, ← hleft]
    exact (h.perm.filter _).symm
  have hsnd : (part c samples).2.Perm k.back := by
    rw [part_snd, ← hright]
    simp only [decide_not]
    exact (h.perm.filter _).symm
  have hlengths := length_part c samples
  have hfront : (part c samples).1.length = k.position + 1 := by
    rw [hfst.length_eq, Cut.length_front]
  have hback : (part c samples).2.length = k.after.length + 1 := hsnd.length_eq
  exact {
    length_left := hfront
    left_perm := hfst
    right_perm := hsnd
    tally_left := (tally_perm hfst).trans h.left_eq.symm
    tally_right := (tally_perm hsnd).trans h.right_eq.symm
    left_ne_nil := List.ne_nil_of_length_eq_add_one hfront
    right_ne_nil := List.ne_nil_of_length_eq_add_one hback
    left_lt := by omega
    right_lt := by omega }

/-- The number of samples on the left tells that the neighbours are kept apart. -/
theorem Candidate.TakenAt.separates (h : c.TakenAt samples k)
    (hnumbers : Numbers [c.feature] samples)
    (hlength : (part c samples).1.length = k.position + 1) : c.Separates k := by
  have hpairwise := h.pairwise hnumbers
  rw [h.length_part_fst, List.countP_append] at hlength
  have hlast : k.last.features.column c.feature ≤ c.threshold := by
    by_contra hnot
    -- nobody from the last neighbour on goes to the left
    have hback : k.back.countP (fun x =>
        Tree.goesLeft c.feature c.threshold x.features) = 0 := by
      rw [List.countP_eq_zero]
      intro x hx hle
      apply hnot
      apply Number.le_trans _ (of_decide_eq_true hle)
      apply (List.pairwise_append.mp hpairwise).2.2 k.last _ x hx
      exact List.mem_append_right _ List.mem_cons_self
    have hbefore := List.countP_le_length (l := k.before)
      (p := fun x => Tree.goesLeft c.feature c.threshold x.features)
    have hskip : Tree.goesLeft c.feature c.threshold k.last.features = false :=
      decide_eq_false hnot
    rw [Cut.front, List.countP_append, List.countP_singleton, hskip, hback] at hlength
    simp only [Cut.position, Bool.false_eq_true, if_false] at hlength
    omega
  have hfirst : ¬ k.first.features.column c.feature ≤ c.threshold := by
    intro hle
    -- all up to the first neighbour behind go to the left
    have hfront : k.front.countP (fun x =>
        Tree.goesLeft c.feature c.threshold x.features) = k.front.length := by
      rw [List.countP_eq_length]
      intro x hx
      apply decide_eq_true
      apply Number.le_trans _ hle
      exact (List.pairwise_append.mp hpairwise).2.2 x hx k.first List.mem_cons_self
    have htake : Tree.goesLeft c.feature c.threshold k.first.features = true :=
      decide_eq_true hle
    rw [hfront, Cut.length_front, Cut.back, List.countP_cons, if_pos htake] at hlength
    omega
  refine ⟨hlast, Number.lt_of_not_le ?_ (Number.isNaN_of_le hlast).2 hfirst⟩
  exact hnumbers k.first h.first_mem c.feature List.mem_cons_self

/-- Features are finite, and so are the sums of any two values of a feature.  Where
these differ, there is room between them. -/
structure Spread (columns : List Nat) (samples : List Sample) : Prop where
  isFinite : ∀ x ∈ samples, ∀ feature ∈ columns,
    (x.features.column feature).isFinite = true
  sum_isFinite : ∀ x ∈ samples, ∀ y ∈ samples, ∀ feature ∈ columns,
    (x.features.column feature + y.features.column feature).isFinite = true
  exists_between : ∀ x ∈ samples, ∀ y ∈ samples, ∀ feature ∈ columns,
    x.features.column feature < y.features.column feature →
      ∃ z, x.features.column feature < z ∧ z < y.features.column feature

theorem Spread.numbers {columns : List Nat} (h : Spread columns samples) :
    Numbers columns samples := by
  intro x hx feature hfeature
  exact Number.isNaN_of_isFinite (h.isFinite x hx feature hfeature)

theorem Spread.mono {columns others : List Nat} {fewer : List Sample}
    (h : Spread columns samples) (hcolumns : others ⊆ columns)
    (hsamples : fewer ⊆ samples) : Spread others fewer where
  isFinite x hx feature hfeature := h.isFinite x (hsamples hx) feature (hcolumns hfeature)
  sum_isFinite x hx y hy feature hfeature :=
    h.sum_isFinite x (hsamples hx) y (hsamples hy) feature (hcolumns hfeature)
  exists_between x hx y hy feature hfeature :=
    h.exists_between x (hsamples hx) y (hsamples hy) feature (hcolumns hfeature)

/-- Neighbours with room between them are kept apart. -/
theorem Spread.separates (hspread : Spread [c.feature] samples)
    (h : c.TakenAt samples k) : c.Separates k := by
  have hmem : c.feature ∈ [c.feature] := List.mem_cons_self
  have hlast := hspread.isFinite k.last h.last_mem c.feature hmem
  have hfirst := hspread.isFinite k.first h.first_mem c.feature hmem
  have hsum := hspread.sum_isFinite k.last h.last_mem k.first h.first_mem c.feature hmem
  have hle : k.last.features.column c.feature ≤ k.first.features.column c.feature := by
    have hacross := (List.pairwise_append.mp (h.pairwise hspread.numbers)).2.2
    exact hacross k.last (List.mem_append_right _ List.mem_cons_self) k.first
      List.mem_cons_self
  have hlt := Number.lt_of_le_of_beq hle h.differ
  obtain ⟨z, hlow, hhigh⟩ :=
    hspread.exists_between k.last h.last_mem k.first h.first_mem c.feature hmem hlt
  rw [Candidate.Separates, h.threshold_eq]
  constructor
  · exact (Number.midpoint_bounds hlast hfirst hle hsum).1
  · exact Number.midpoint_lt hlast hfirst hsum hlow hhigh

theorem realisedAt_iff (h : c.TakenAt samples k)
    (hnumbers : Numbers [c.feature] samples) :
    c.RealisedAt samples k ↔ c.Separates k := by
  constructor
  · intro hrealised
    exact h.separates hnumbers hrealised.length_left
  · intro hseparates
    exact hseparates.realisedAt h hnumbers

end place

section tree

variable (s : GrowthSettings) (columns : List Nat) (samples : List Sample)

/-- A tree whose questions part the samples as they were counted.  The bounds do not
depend on the depth that the settings allow. -/
structure Realised : Prop where
  exists_realisedAt : ∀ turns feature threshold left right,
    (grow s columns samples).subtree? turns =
        some (.split feature threshold left right) →
      ∃ c k, c.feature = feature ∧ c.threshold = threshold ∧
        ChosenAt s columns samples turns c k ∧
        c.RealisedAt (node s columns samples turns) k
  leaves_le : (grow s columns samples).leaves.length ≤ samples.length
  depth_le : (grow s columns samples).depth ≤ samples.length - 1

variable {s columns samples}

theorem ChosenAt.numbers {turns : List Bool} {c : Candidate} {k : Cut}
    (h : ChosenAt s columns samples turns c k) (hnumbers : Numbers columns samples) :
    Numbers [c.feature] (node s columns samples turns) :=
  (hnumbers.mono (List.filter_subset_self _)).column h.feature_mem

/-- Where no side of a question is empty, each leaf has a sample of its own. -/
theorem bounds_of_separates (hne : samples ≠ []) (hnumbers : Numbers columns samples)
    (hseparates : ∀ turns c k, ChosenAt s columns samples turns c k →
      c.Separates k) :
    (grow s columns samples).leaves.length ≤ samples.length ∧
      (grow s columns samples).depth + 1 ≤ samples.length := by
  have hpos := List.length_pos_iff.mpr hne
  induction hdepth : s.maxDepth generalizing s samples with
  | zero =>
      rw [grow_eq, if_pos hdepth]
      exact ⟨hpos, hpos⟩
  | succ depth ih =>
      rcases htree : grow s columns samples with v | ⟨feature, threshold, left, right⟩
      · exact ⟨hpos, hpos⟩
      · have hroot : (grow s columns samples).subtree? [] =
            some (.split feature threshold left right) := by
          rw [htree, Tree.subtree?]
        obtain ⟨c, k, rfl, rfl, hchosen⟩ := exists_chosenAt hroot
        have hnode : node s columns samples [] = samples := Tree.passing_nil _ _
        have hsubtree := hchosen.subtree_eq
        rw [hroot, hnode] at hsubtree
        obtain ⟨rfl, rfl⟩ := (Tree.split.inj (Option.some.inj hsubtree)).2.2
        have hrealised := (hseparates [] c k hchosen).realisedAt hchosen.taken
          (hchosen.numbers hnumbers)
        rw [hnode] at hrealised
        have hbelow : (s.below 1).maxDepth = depth := by
          rw [GrowthSettings.below, hdepth, Nat.add_sub_cancel]
        have hleft := ih hrealised.left_ne_nil
          (hnumbers.mono (part_fst_subset c samples))
          (fun turns d j h => hseparates _ d j (h.of_left htree))
          (List.length_pos_iff.mpr hrealised.left_ne_nil) hbelow
        have hright := ih hrealised.right_ne_nil
          (hnumbers.mono (part_snd_subset c samples))
          (fun turns d j h => hseparates _ d j (h.of_right htree))
          (List.length_pos_iff.mpr hrealised.right_ne_nil) hbelow
        have hlengths := length_part c samples
        rw [Tree.leaves, List.length_append, Tree.depth]
        simp only [List.length_nil, Nat.zero_add] at *
        omega

/-- A tree parts its samples as they were counted just when no threshold is rounded
out of its place, and where values have room between them, none is. -/
theorem realised_iff_and_of_spread (hne : samples ≠ [])
    (hnumbers : Numbers columns samples) :
    (Realised s columns samples ↔
      ∀ turns c k, ChosenAt s columns samples turns c k → c.Separates k) ∧
    (Spread columns samples → Realised s columns samples) := by
  have hrealised (hseparates : ∀ turns c k, ChosenAt s columns samples turns c k →
      c.Separates k) : Realised s columns samples := by
    obtain ⟨hleaves, hdepth⟩ := bounds_of_separates hne hnumbers hseparates
    refine ⟨?_, hleaves, by omega⟩
    intro turns feature threshold left right hsplit
    obtain ⟨c, k, hfeature, hthreshold, hchosen⟩ := exists_chosenAt hsplit
    refine ⟨c, k, hfeature, hthreshold, hchosen, ?_⟩
    rw [realisedAt_iff hchosen.taken (hchosen.numbers hnumbers)]
    exact hseparates turns c k hchosen
  refine ⟨⟨?_, hrealised⟩, ?_⟩
  · intro hparts turns c k hchosen
    obtain ⟨d, j, -, -, hother, hparted⟩ :=
      hparts.exists_realisedAt turns _ _ _ _ hchosen.subtree_eq
    obtain rfl : d = c := Option.some.inj (hother.chosen.symm.trans hchosen.chosen)
    apply hchosen.taken.separates (hchosen.numbers hnumbers)
    rw [hparted.length_left, ← hother.taken.left_total, hchosen.taken.left_total]
  · intro hspread
    apply hrealised
    intro turns c k hchosen
    apply Spread.separates _ hchosen.taken
    apply hspread.mono
    · intro feature hfeature
      rw [List.mem_singleton.mp hfeature]
      exact hchosen.feature_mem
    · exact List.filter_subset_self _

/-- Two values with room between them. -/
def roomy : List Sample := [⟨#[0.0], .negative⟩, ⟨#[1.0], .positive⟩]

theorem spread_roomy : Spread [0] roomy where
  isFinite := by decide +kernel
  sum_isFinite := by decide +kernel
  exists_between := by
    have hbetween : ∀ x ∈ roomy, ∀ y ∈ roomy, ∀ feature ∈ [0],
        x.features.column feature < y.features.column feature →
          x.features.column feature < 0.5 ∧ 0.5 < y.features.column feature := by
      decide +kernel
    intro x hx y hy feature hfeature hlt
    exact ⟨0.5, hbetween x hx y hy feature hfeature hlt⟩

theorem realised_roomy :
    roomy ≠ [] ∧ Numbers [0] roomy ∧ Spread [0] roomy ∧
      Realised ⟨10, 2⟩ [0] roomy := by
  have hne : roomy ≠ [] := List.cons_ne_nil _ _
  have hrealised := realised_iff_and_of_spread (s := ⟨10, 2⟩) hne spread_roomy.numbers
  exact ⟨hne, spread_roomy.numbers, spread_roomy, hrealised.2 spread_roomy⟩

/-- A question that lets all samples pass to the left is asked again and again, as
long as the tree may grow. -/
theorem maxDepth_le_depth {c : Candidate} (hsplit : split? s columns samples = some c)
    (hpart : (part c samples).1 = samples) :
    s.maxDepth ≤ (grow s columns samples).depth := by
  induction hdepth : s.maxDepth generalizing s with
  | zero => exact Nat.zero_le _
  | succ depth ih =>
      have hbelow : (s.below 1).maxDepth = depth := by
        rw [GrowthSettings.below, hdepth, Nat.add_sub_cancel]
      have hleft := ih (s := s.below 1) hsplit hbelow
      rw [grow_eq, hdepth, if_neg (Nat.succ_ne_zero depth), hsplit, Tree.depth, hpart]
      omega

/-- Two values with no double between them. -/
def adjacent : List Sample :=
  [⟨#[1.0000000000000002], .negative⟩, ⟨#[1.0000000000000004], .positive⟩]

/-- Two values whose sum is out of range. -/
def outOfRange : List Sample :=
  [⟨#[1e308], .negative⟩, ⟨#[1.7e308], .positive⟩]

/-- The mean of two finite values need not keep them apart. -/
theorem not_realised :
    ((∀ x ∈ adjacent, (x.features.column 0).isFinite = true) ∧
      ¬ Realised ⟨10, 2⟩ [0] adjacent) ∧
    ((∀ x ∈ outOfRange, (x.features.column 0).isFinite = true) ∧
      ¬ Realised ⟨10, 2⟩ [0] outOfRange) := by
  have hdeep {samples : List Sample} {c : Candidate}
      (hsplit : split? ⟨10, 2⟩ [0] samples = some c)
      (hpart : (part c samples).1 = samples) (hlength : samples.length = 2) :
      ¬ Realised ⟨10, 2⟩ [0] samples := by
    intro hrealised
    have hle := hrealised.depth_le
    have hge := maxDepth_le_depth hsplit hpart
    simp only at hge
    omega
  have hadjacent : split? ⟨10, 2⟩ [0] adjacent =
      some ⟨0, 1.0000000000000004, ⟨0, 1⟩, ⟨1, 1⟩⟩ := by
    simp only [split?, bestSplit?, List.flatMap_cons, List.flatMap_nil]
    rw [candidates_of_pairwise _ _ (by decide +kernel)]
    decide +kernel
  have houtOfRange : split? ⟨10, 2⟩ [0] outOfRange =
      some ⟨0, 1.0 / 0.0, ⟨0, 1⟩, ⟨1, 1⟩⟩ := by
    simp only [split?, bestSplit?, List.flatMap_cons, List.flatMap_nil]
    rw [candidates_of_pairwise _ _ (by decide +kernel)]
    decide +kernel
  refine ⟨⟨by decide +kernel, hdeep hadjacent ?_ rfl⟩,
    ⟨by decide +kernel, hdeep houtOfRange ?_ rfl⟩⟩
  · decide +kernel
  · decide +kernel

end tree

end Credence.Growth
