/-
A forest without chance is one tree.  If every tree gets all samples and may ask for all
features, the random words that a tree is given make no difference: it is the tree that
is grown without them, and so many equal trees give the class that one of them gives.
-/
import Credence.Proofs.Classifier.Safety
import Credence.Proofs.Number.Count
import Mathlib.Data.List.Sort

namespace Credence

namespace Forest

variable (s : ForestSettings) (w : Random.Words)

/-- If all features are drawn, they are in order again at the end. -/
theorem drawColumns_of_all {width : Nat} (hall : s.featuresPerTree width = width)
    (position : Nat) : drawColumns s w width position = List.range width := by
  -- nothing is cut off, and sorting undoes every shuffle
  have hperm : (drawColumns s w width position).Perm (List.range width) := by
    apply (drawColumns_subperm s w width position).perm_of_length_le
    rw [length_drawColumns, hall, List.length_range]
  have hsorted : (drawColumns s w width position).Pairwise (· ≤ ·) :=
    List.pairwise_mergeSort' (· ≤ ·) _
  exact hperm.eq_of_pairwise (fun _ _ _ _ => Nat.le_antisymm) hsorted
    (List.pairwise_lt_range.imp Nat.le_of_lt)

/-- Each tree that gets everything is the one that is grown without chance. -/
theorem grow_of_all {t : TrainingSet} (hrows : s.bootstrap = false)
    (hall : s.featuresPerTree t.width = t.width) :
    grow s t = List.replicate s.trees
      (Growth.grow s.growth (List.range t.width) t.samples) := by
  have htree (number : Nat) : growTree s t number =
      Growth.grow s.growth (List.range t.width) t.samples := by
    have hplaces : placesFor s t number = List.range t.size := by
      rw [placesFor, drawRows, hrows]
      rfl
    rw [growTree_eq, hplaces, Table.samplesAt_range, columnsFor,
      drawColumns_of_all _ _ hall]
  rw [grow, List.eq_replicate_iff]
  constructor
  · rw [List.length_map, List.length_range]
  · intro tree htree'
    obtain ⟨number, -, rfl⟩ := List.mem_map.mp htree'
    exact htree number

/-- Trees that are all the same agree with any one of them. -/
theorem classify_replicate {trees : Nat} (htrees : trees ≠ 0) (root : Tree Verdict)
    (row : Features) : classify (List.replicate trees root) row = root.classify row := by
  rw [classify, List.map_replicate, Tally.majority, Tally.negative, Tally.ofVerdicts]
  cases root.classify row with
  | positive => simp
  | negative => simp [List.count_replicate, htrees]

end Forest

namespace ForestSettings

variable {s : ForestSettings}

theorem growth_problem?_eq_none (hvalid : s.problem? = none) :
    s.growth.problem? = none := by
  rw [problem?] at hvalid
  split at hvalid
  · cases hvalid
  · split at hvalid
    · cases hvalid
    · exact hvalid

/-- With a share of one, every tree may ask for all features. -/
theorem featuresPerTree_of_share_one (hshare : s.featureShare = 1.0) {width : Nat}
    (hwidth : width < 2 ^ 53) : s.featuresPerTree width = width := by
  obtain ⟨hfinite, hvalue⟩ := Number.value_one_mul_ofNat hwidth
  have hmax : width ≤ Number.maxCount := hwidth.le.trans (by decide)
  rw [featuresPerTree, hshare, Number.ceilCount_of_value hfinite hmax hvalue]
  split
  · next hzero => exact hzero.symm
  · next hpos => exact Nat.min_eq_right (Nat.le_max_left width 1)

end ForestSettings

namespace Classifier

/-- A forest whose trees get all samples and may ask for all features consists of the
tree that is grown from the same samples with the same limits, and both give the same
classes.  They may ask for all features if their share is one, as long as the number of
features is held exactly. -/
theorem learn_forest_eq_tree (c : TreeClassifier) (f : ForestClassifier)
    (hvalid : f.settings.problem? = none) (hlimits : c.settings = f.settings.growth)
    (hrows : f.settings.bootstrap = false) {rows : List Features} {codes : List Nat}
    {t : TrainingSet} (haccepted : TrainingSet.make rows codes = .ok t) :
    (f.settings.featureShare = 1.0 → t.width < 2 ^ 53 →
      f.settings.featuresPerTree t.width = t.width) ∧
    (f.settings.featuresPerTree t.width = t.width →
      ∃ root, (tree c).learn rows codes =
          (.ok ⟨⟩, tree { c with root? := some root, width? := some t.width }) ∧
        (forest f).learn rows codes = (.ok ⟨⟩, forest { f with
          trees := List.replicate f.settings.trees root
          width? := some t.width }) ∧
        ∀ row : Features, row.size = t.width → ∃ v,
          ((tree c).learn rows codes).2.predict row = .ok v ∧
            ((forest f).learn rows codes).2.predict row = .ok v) := by
  refine ⟨fun hshare hwidth => ForestSettings.featuresPerTree_of_share_one hshare hwidth, ?_⟩
  intro hall
  have htrees := ForestSettings.trees_ne_zero hvalid
  have hsingle : (tree c).problem? = none := by
    rw [problem?, hlimits]
    exact ForestSettings.growth_problem?_eq_none hvalid
  have hgrow := Forest.grow_of_all f.settings hrows hall
  rw [← hlimits] at hgrow
  have htree : (tree c).learn rows codes = (.ok ⟨⟩, (tree c).store t) := by
    rw [learn_eq, haccepted]
  have hforest : (forest f).learn rows codes = (.ok ⟨⟩, (forest f).store t) := by
    rw [learn_eq, haccepted]
  refine ⟨_, htree, ?_, ?_⟩
  · rw [hforest, store, ForestClassifier.store, hgrow]
  · intro row hrow
    refine ⟨_, predict_learn t hsingle haccepted hrow, ?_⟩
    rw [predict_learn (c := forest f) t hvalid haccepted hrow, answer, hgrow,
      Forest.classify_replicate htrees]
    rfl

/-- Three trees that shuffle two columns with words of their own, and one tree that does
not. -/
theorem learn_forest_eq_tree_three_trees :
    (⟨3, 1.0, 4, 2, false, 7⟩ : ForestSettings).problem? = none ∧
    ∃ t, TrainingSet.make [#[0.0, 1.0], #[2.0, 1.0], #[0.0, 3.0]] [0, 1, 1] = .ok t ∧
      (⟨3, 1.0, 4, 2, false, 7⟩ : ForestSettings).featuresPerTree t.width = t.width ∧
      (#[0.0, 2.5] : Features).size = t.width ∧
      ∃ root v,
        (forest (.fresh ⟨3, 1.0, 4, 2, false, 7⟩)).learn
            [#[0.0, 1.0], #[2.0, 1.0], #[0.0, 3.0]] [0, 1, 1] =
          (.ok ⟨⟩, forest ⟨⟨3, 1.0, 4, 2, false, 7⟩, [root, root, root], some t.width⟩) ∧
        ((tree (.fresh ⟨4, 2⟩)).learn
          [#[0.0, 1.0], #[2.0, 1.0], #[0.0, 3.0]] [0, 1, 1]).2.predict #[0.0, 2.5] =
            .ok v ∧
        ((forest (.fresh ⟨3, 1.0, 4, 2, false, 7⟩)).learn
          [#[0.0, 1.0], #[2.0, 1.0], #[0.0, 3.0]] [0, 1, 1]).2.predict #[0.0, 2.5] =
            .ok v := by
  have hvalid : (⟨3, 1.0, 4, 2, false, 7⟩ : ForestSettings).problem? = none := by
    decide +kernel
  have hlearnable : Learnable [#[0.0, 1.0], #[2.0, 1.0], #[0.0, 3.0]] [0, 1, 1] := by
    decide +kernel
  obtain ⟨t, ht, hwidth⟩ := TrainingSet.exists_make_eq_ok hlearnable
  have hrow : (#[0.0, 2.5] : Features).size = t.width := by
    rw [← hwidth #[0.0, 1.0] List.mem_cons_self]
    simp
  obtain ⟨hshare, hsame⟩ := learn_forest_eq_tree (.fresh ⟨4, 2⟩)
    (.fresh ⟨3, 1.0, 4, 2, false, 7⟩) hvalid rfl rfl ht
  have hsmall : t.width < 2 ^ 53 := by
    rw [← hrow]
    decide +kernel
  have hall := hshare rfl hsmall
  obtain ⟨root, -, hforest, hpredict⟩ := hsame hall
  obtain ⟨v, htree, hvote⟩ := hpredict #[0.0, 2.5] hrow
  exact ⟨hvalid, t, ht, hall, hrow, root, v, hforest, htree, hvote⟩

end Classifier

end Credence
