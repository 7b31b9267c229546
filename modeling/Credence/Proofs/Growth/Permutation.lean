/-
Trees do not depend on the order of the samples.  Where samples are equal in a feature
their order shows in the counts of the scan, but those are read only between two values
that differ, and there all samples of the lower values are in front in any order.
-/
import Credence.Classifier
import Credence.Proofs.Growth.Thresholds
import Credence.Proofs.TrainingSet

namespace Credence

namespace Growth

section column

variable {xs ys : List (Float × Verdict)} {i : Nat} {value next : Float}

/-- A column whose values stand in the total order of doubles. -/
def Ascending (column : List (Float × Verdict)) : Prop :=
  column.Pairwise fun a b => Number.totalLe a.1 b.1

/-- The neighbours at a place of a column. -/
structure Neighbours (column : List (Float × Verdict)) (i : Nat)
    (value next : Float) : Prop where
  value_eq : (column.map (·.1))[i]? = some value
  next_eq : (column.map (·.1))[i + 1]? = some next

theorem Ascending.values_pairwise (h : Ascending xs) :
    (xs.map (·.1)).Pairwise fun a b => Number.totalLe a b = true :=
  List.pairwise_map.mpr h

/-- Two columns of the same entries hold their values in the same order. -/
theorem Ascending.values_eq (hx : Ascending xs) (hy : Ascending ys)
    (hperm : xs.Perm ys) : xs.map (·.1) = ys.map (·.1) := by
  apply List.Perm.eq_of_pairwise _ hx.values_pairwise hy.values_pairwise (hperm.map _)
  intro a b _ _ hab hba
  exact Number.totalLe_antisymm hab hba

theorem Ascending.totalLe (h : Ascending xs) (hplace : Neighbours xs i value next) :
    Number.totalLe value next = true := by
  obtain ⟨hi, rfl⟩ := List.getElem?_eq_some_iff.mp hplace.value_eq
  obtain ⟨hi', rfl⟩ := List.getElem?_eq_some_iff.mp hplace.next_eq
  exact List.pairwise_iff_getElem.mp h.values_pairwise i (i + 1) hi hi' (Nat.lt_succ_self i)

theorem Ascending.le_of_mem_take (h : Ascending xs) (hplace : Neighbours xs i value next)
    {a : Float × Verdict} (ha : a ∈ xs.take (i + 1)) :
    Number.totalLe a.1 value = true := by
  obtain ⟨hi, hvalue⟩ := List.getElem?_eq_some_iff.mp hplace.value_eq
  obtain ⟨j, hj, rfl⟩ := List.mem_take_iff_getElem.mp ha
  rw [List.length_map] at hi
  rw [List.getElem_map] at hvalue
  rw [← hvalue]
  rcases Nat.lt_or_eq_of_le (Nat.le_of_lt_succ (lt_min_iff.mp hj).1) with hlow | rfl
  · exact List.pairwise_iff_getElem.mp h j i _ hi hlow
  · exact Number.totalLe_refl _

theorem Ascending.le_of_mem_drop (h : Ascending xs) (hplace : Neighbours xs i value next)
    {a : Float × Verdict} (ha : a ∈ xs.drop (i + 1)) :
    Number.totalLe next a.1 = true := by
  obtain ⟨hi, hnext⟩ := List.getElem?_eq_some_iff.mp hplace.next_eq
  obtain ⟨j, hj, rfl⟩ := List.mem_drop_iff_getElem.mp ha
  rw [List.length_map] at hi
  rw [List.getElem_map] at hnext
  rw [← hnext]
  rcases Nat.eq_zero_or_pos j with rfl | hpos
  · exact Number.totalLe_refl _
  · exact List.pairwise_iff_getElem.mp h (i + 1) (i + 1 + j) hi _
      (Nat.lt_add_of_pos_right hpos)

/-- What stands in front of a place with different neighbours is what is not above the
lower one. -/
theorem Ascending.take_eq_filter (h : Ascending xs) (hplace : Neighbours xs i value next)
    (hlt : Number.totalLe next value = false) :
    xs.take (i + 1) = xs.filter fun a => Number.totalLe a.1 value := by
  have hfront : ∀ a ∈ xs.take (i + 1), Number.totalLe a.1 value = true := by
    intro a ha
    exact h.le_of_mem_take hplace ha
  have hback : ∀ a ∈ xs.drop (i + 1), ¬ Number.totalLe a.1 value = true := by
    intro a ha hle
    rw [Number.totalLe_trans (h.le_of_mem_drop hplace ha) hle] at hlt
    cases hlt
  calc xs.take (i + 1)
      = (xs.take (i + 1)).filter (fun a => Number.totalLe a.1 value) ++
          (xs.drop (i + 1)).filter (fun a => Number.totalLe a.1 value) := by
        rw [List.filter_eq_self.mpr hfront, List.filter_eq_nil_iff.mpr hback,
          List.append_nil]
    _ = xs.filter (fun a => Number.totalLe a.1 value) := by
        rw [← List.filter_append, List.take_append_drop]

/-- The same samples are in front of such a place in both columns, if not in the same
order. -/
theorem Ascending.take_perm (hx : Ascending xs) (hy : Ascending ys)
    (hperm : xs.Perm ys) (hplace : Neighbours xs i value next)
    (hlt : Number.totalLe next value = false) :
    (xs.take (i + 1)).Perm (ys.take (i + 1)) := by
  have hvalues := hx.values_eq hy hperm
  have hother : Neighbours ys i value next :=
    ⟨hvalues ▸ hplace.value_eq, hvalues ▸ hplace.next_eq⟩
  rw [hx.take_eq_filter hplace hlt, hy.take_eq_filter hother hlt]
  exact hperm.filter _

/-- One step of the scan. -/
theorem candidatesFrom_cons_cons (feature : Nat) (whole left : Tally)
    (x y : Float × Verdict) (rest : List (Float × Verdict)) :
    candidatesFrom feature whole left (x :: y :: rest) =
      if x.1 == y.1 then candidatesFrom feature whole (left.add x.2) (y :: rest)
      else ⟨feature, (x.1 + y.1) / 2.0, left.add x.2, whole.without (left.add x.2)⟩ ::
        candidatesFrom feature whole (left.add x.2) (y :: rest) := rfl

/-- The scan reads the values, and the counts between two values that differ. -/
theorem candidatesFrom_congr {feature : Nat} {whole left others : Tally}
    (hvalues : xs.map (·.1) = ys.map (·.1))
    (hcounts : ∀ i value next, Neighbours xs i value next → (value == next) = false →
      ((xs.take (i + 1)).map (·.2)).foldl Tally.add left =
        ((ys.take (i + 1)).map (·.2)).foldl Tally.add others) :
    candidatesFrom feature whole left xs = candidatesFrom feature whole others ys := by
  induction xs generalizing ys left others with
  | nil =>
      rw [List.map_eq_nil_iff.mp hvalues.symm]
      rfl
  | cons x xs ih =>
      -- Both columns are as long as each other, so they end together.
      rcases ys with _ | ⟨y, ys⟩
      · cases hvalues
      · obtain ⟨hhead, htail⟩ := List.cons.inj hvalues
        have hfurther : candidatesFrom feature whole (left.add x.2) xs =
            candidatesFrom feature whole (others.add y.2) ys := by
          apply ih htail
          intro i value next hplace hdiffer
          exact hcounts (i + 1) value next ⟨hplace.value_eq, hplace.next_eq⟩ hdiffer
        rcases xs with _ | ⟨x', xs⟩
        · rw [List.map_eq_nil_iff.mp htail.symm]
          rfl
        · rcases ys with _ | ⟨y', ys⟩
          · cases htail
          · have hvalue : x.1 = y.1 := hhead
            have hnext : x'.1 = y'.1 := (List.cons.inj htail).1
            rw [candidatesFrom_cons_cons, candidatesFrom_cons_cons, hfurther, hvalue, hnext]
            split
            · rfl
            · next hdiffer =>
                have hleft : left.add x.2 = others.add y.2 :=
                  hcounts 0 y.1 y'.1 ⟨congrArg some hvalue, congrArg some hnext⟩
                    (Bool.eq_false_of_not_eq_true hdiffer)
                rw [hleft]

end column

section node

variable {samples others : List Sample} {feature : Nat}

theorem sortedColumn_ascending (samples : List Sample) (feature : Nat) :
    Ascending (sortedColumn samples feature) := by
  apply List.pairwise_mergeSort
  · intro a b c
    exact Number.totalLe_trans
  · intro a b
    exact Number.totalLe_total _ _

theorem sortedColumn_perm (h : samples.Perm others) :
    (sortedColumn samples feature).Perm (sortedColumn others feature) :=
  ((List.mergeSort_perm _ _).trans (h.map _)).trans (List.mergeSort_perm _ _).symm

/-- The values of a column are values of the samples. -/
theorem isNaN_of_sortedColumn (hnumbers : Numbers [feature] samples) {i : Nat} {value : Float}
    (hi : ((sortedColumn samples feature).map (·.1))[i]? = some value) :
    value.isNaN = false := by
  obtain ⟨a, ha, rfl⟩ := List.mem_map.mp (List.mem_of_getElem? hi)
  have hmem := (List.mergeSort_perm _ _).mem_iff.mp ha
  obtain ⟨x, hx, rfl⟩ := List.mem_map.mp hmem
  exact hnumbers x hx feature List.mem_cons_self

theorem candidates_perm (h : samples.Perm others) (hnumbers : Numbers [feature] samples) :
    candidates samples feature = candidates others feature := by
  have hx := sortedColumn_ascending samples feature
  have hy := sortedColumn_ascending others feature
  have hperm : (sortedColumn samples feature).Perm (sortedColumn others feature) :=
    sortedColumn_perm h
  rw [candidates, candidates, tally_perm h]
  apply candidatesFrom_congr (hx.values_eq hy hperm)
  intro i value next hplace hdiffer
  have hvalue := isNaN_of_sortedColumn hnumbers hplace.value_eq
  have hlt : Number.totalLe next value = false :=
    Number.totalLe_eq_false hvalue (hx.totalLe hplace) hdiffer
  have hfront := hx.take_perm hy hperm hplace hlt
  rw [foldl_add, foldl_add, (hfront.map _).count_eq, (hfront.map _).length_eq]

variable {s : GrowthSettings} {columns : List Nat}

theorem bestSplit?_perm (h : samples.Perm others) (hnumbers : Numbers columns samples) :
    bestSplit? samples columns = bestSplit? others columns := by
  have hall : columns.flatMap (candidates samples) =
      columns.flatMap (candidates others) := by
    apply List.flatMap_congr
    intro feature hfeature
    exact candidates_perm h (hnumbers.column hfeature)
  rw [bestSplit?, bestSplit?, hall]

theorem split?_perm (h : samples.Perm others) (hnumbers : Numbers columns samples) :
    split? s columns samples = split? s columns others := by
  rw [split?, split?, tally_perm h, bestSplit?_perm h hnumbers]

theorem part_perm_of_perm (c : Candidate) (h : samples.Perm others) :
    (part c samples).1.Perm (part c others).1 ∧
      (part c samples).2.Perm (part c others).2 := by
  simp only [part_fst, part_snd]
  exact ⟨h.filter _, h.filter _⟩

/-- Every node is the same in any order of its samples, so the whole tree is. -/
theorem grow_perm (s : GrowthSettings) (columns : List Nat) (h : samples.Perm others)
    (hnumbers : Numbers columns samples) :
    grow s columns samples = grow s columns others := by
  rw [grow, grow]
  generalize s.maxDepth = depth
  induction depth generalizing samples others with
  | zero =>
      rw [parts, parts, Tree.map, Tree.map, vote, vote, tally_perm h]
  | succ depth ih =>
      rw [parts, parts, split?_perm h hnumbers]
      split
      · rw [Tree.map, Tree.map, vote, vote, tally_perm h]
      · next c hsome =>
          obtain ⟨hleft, hright⟩ := part_perm_of_perm c h
          rw [Tree.map, Tree.map, ih hleft (hnumbers.mono (part_fst_subset c samples)),
            ih hright (hnumbers.mono (part_snd_subset c samples))]

end node

end Growth

namespace Classifier

open Growth

/-- Rows without an undefined feature have none that is asked for. -/
theorem numbers_of_make {rows : List Features} {codes : List Nat} {t : TrainingSet}
    (h : TrainingSet.make rows codes = .ok t)
    (hnumbers : ∀ row ∈ rows, ∀ x ∈ row, x.isNaN = false) (columns : List Nat) :
    Numbers columns t.samples := by
  have houtcome := TrainingSet.outcome_make rows codes
  rw [h] at houtcome
  obtain _ | _ | _ | ⟨-, -, -, hsamples⟩ := houtcome
  intro s hs feature _
  rw [hsamples] at hs
  have hrow := TrainingSet.features_mem_of_mem_join hs
  rw [Features.column, Array.getD_eq_getD_getElem?]
  cases hx : s.features[feature]? with
  | none => rfl
  | some x => exact hnumbers s.features hrow x (Array.mem_of_getElem? hx)

/-- A tree grown on samples in another order is the same tree and gives every row the
same class, and so it is with a tree that is grown on places of samples. -/
theorem learn_tree_of_perm (c : TreeClassifier) {rows others : List Features}
    {codes labels : List Nat} {t : TrainingSet}
    (haccepted : TrainingSet.make rows codes = .ok t)
    (hnumbers : ∀ row ∈ rows, ∀ x ∈ row, x.isNaN = false)
    (hlength : others.length = labels.length)
    (hperm : (others.zip labels).Perm (rows.zip codes)) :
    (∃ root, (tree c).learn rows codes =
        (.ok ⟨⟩, tree { c with root? := some root, width? := some t.width }) ∧
      (tree c).learn others labels =
        (.ok ⟨⟩, tree { c with root? := some root, width? := some t.width })) ∧
    (∀ row, ((tree c).learn others labels).2.predict row =
      ((tree c).learn rows codes).2.predict row) ∧
    ∀ (s : GrowthSettings) (columns : List Nat) (samples : List Sample)
      (places shuffled : List Nat), shuffled.Perm places →
      Numbers columns (places.filterMap (samples[·]?)) →
      grow s columns (shuffled.filterMap (samples[·]?)) =
        grow s columns (places.filterMap (samples[·]?)) := by
  obtain ⟨u, hu, hsamples, hwidth⟩ :=
    TrainingSet.exists_make_eq_ok_of_perm haccepted hlength hperm
  have hfirst : (tree c).learn rows codes = (.ok ⟨⟩, tree (c.store t)) := by
    rw [learn, Learning.act_fit, haccepted]
    rfl
  have hsecond : (tree c).learn others labels = (.ok ⟨⟩, tree (c.store u)) := by
    rw [learn, Learning.act_fit, hu]
    rfl
  have hstore : c.store u = c.store t := by
    rw [TreeClassifier.store, TreeClassifier.store, hwidth]
    rw [grow_perm c.settings (List.range t.width) hsamples.symm
      (numbers_of_make haccepted hnumbers _)]
  rw [hsecond, hstore, hfirst]
  refine ⟨⟨_, rfl, rfl⟩, fun _ => rfl, ?_⟩
  intro s columns samples places shuffled hplaces hall
  exact (grow_perm s columns (hplaces.filterMap _).symm hall).symm

/-- Two zeros that compare as equal but are not the same double. -/
theorem learn_tree_of_perm_zeros :
    Learnable [#[1.0], #[-0.0], #[0.0]] [1, 0, 1] ∧
    (∀ row ∈ [#[1.0], #[-0.0], #[0.0]], ∀ x ∈ row, x.isNaN = false) ∧
    ([#[0.0], #[1.0], #[-0.0]].zip [1, 1, 0]).Perm
      ([#[1.0], #[-0.0], #[0.0]].zip [1, 0, 1]) ∧
    (∀ row, ((tree (.fresh .standard)).learn [#[0.0], #[1.0], #[-0.0]] [1, 1, 0]).2.predict
        row =
      ((tree (.fresh .standard)).learn [#[1.0], #[-0.0], #[0.0]] [1, 0, 1]).2.predict row) ∧
    [1, 0, 1].Perm [0, 1, 1] ∧
    Numbers [0] ([0, 1, 1].filterMap
      ([(⟨#[-0.0], .negative⟩ : Sample), ⟨#[0.0], .positive⟩][·]?)) ∧
    grow .standard [0] ([1, 0, 1].filterMap
        ([(⟨#[-0.0], .negative⟩ : Sample), ⟨#[0.0], .positive⟩][·]?)) =
      grow .standard [0] ([0, 1, 1].filterMap
        ([(⟨#[-0.0], .negative⟩ : Sample), ⟨#[0.0], .positive⟩][·]?)) := by
  have hlearnable : Learnable [#[1.0], #[-0.0], #[0.0]] [1, 0, 1] := by decide +kernel
  have hnumbers : ∀ row ∈ [#[1.0], #[-0.0], #[0.0]], ∀ x ∈ row, x.isNaN = false := by
    decide +kernel
  have hperm : ([#[0.0], #[1.0], #[-0.0]].zip [1, 1, 0]).Perm
      ([#[1.0], #[-0.0], #[0.0]].zip [1, 0, 1]) := by decide +kernel
  have hplaces : [1, 0, 1].Perm [0, 1, 1] := by decide
  have hall : Numbers [0] ([0, 1, 1].filterMap
      ([(⟨#[-0.0], .negative⟩ : Sample), ⟨#[0.0], .positive⟩][·]?)) := by
    unfold Numbers
    decide +kernel
  obtain ⟨t, ht, -⟩ := TrainingSet.exists_make_eq_ok hlearnable
  have hboth := learn_tree_of_perm (.fresh .standard) ht hnumbers rfl hperm
  exact ⟨hlearnable, hnumbers, hperm, hboth.2.1, hplaces, hall,
    hboth.2.2 .standard [0] _ _ _ hplaces hall⟩

end Classifier

end Credence
