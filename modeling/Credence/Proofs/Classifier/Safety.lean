/-
Trees and forests keep to what they are given.  What a forest draws are samples and
features that there are, each tree asks for drawn features only and is no deeper than
allowed, and neither growing nor asking ever runs into a fault.
-/
import Credence.Proofs.Classifier
import Credence.Proofs.Growth.Guarded
import Credence.Proofs.Random.Shuffle
import Mathlib.Data.List.Dedup

namespace Credence

/-- A tree with class codes that keeps to a depth and to some features. -/
structure Tree.Within (root : Tree Nat) (depth : Nat) (columns : List Nat) : Prop where
  depth_le : root.depth ≤ depth
  features_subset : root.features ⊆ columns
  binary : ∀ code ∈ root.leaves, code = 0 ∨ code = 1

namespace Growth

variable (s : GrowthSettings) (columns : List Nat) (samples : List Sample)

theorem features_map {α β : Type} (f : α → β) (root : Tree α) :
    (root.map f).features = root.features := by
  induction root with
  | leaf _ => rfl
  | split feature threshold left right ihl ihr =>
      simp [Tree.map, Tree.features, ihl, ihr]

theorem depth_grow_le : (grow s columns samples).depth ≤ s.maxDepth := by
  rw [grow, Tree.depth_map]
  generalize s.maxDepth = depth
  induction depth generalizing samples with
  | zero => exact Nat.le_refl 0
  | succ depth ih =>
      rw [parts]
      split
      · exact Nat.zero_le _
      · next c _ =>
          have hleft := ih (part c samples).1
          have hright := ih (part c samples).2
          simp only [Tree.depth]
          omega

theorem features_grow_subset : (grow s columns samples).features ⊆ columns := by
  apply grow_induction s columns
    (motive := fun _ root => root.features ⊆ columns)
  · intro samples
    exact List.nil_subset columns
  · intro samples c left right hsplit hleft hright
    have hbest := (of_split?_eq_some hsplit).2.2.2.1
    have hfeature := (exists_takenAt_of_bestSplit? hbest).1
    exact List.cons_subset.mpr ⟨hfeature, List.append_subset.mpr ⟨hleft, hright⟩⟩

theorem grow_within :
    ((grow s columns samples).map (·.code)).Within s.maxDepth columns where
  depth_le := by
    rw [Tree.depth_map]
    exact depth_grow_le s columns samples
  features_subset := by
    rw [features_map]
    exact features_grow_subset s columns samples
  binary := by
    intro code hcode
    rw [Tree.leaves_map] at hcode
    obtain ⟨v, -, rfl⟩ := List.mem_map.mp hcode
    exact v.code_binary

end Growth

namespace Forest

variable (s : ForestSettings) (w : Random.Words)

theorem featuresPerTree_le (width : Nat) : s.featuresPerTree width ≤ width := by
  rw [ForestSettings.featuresPerTree]
  split
  · exact Nat.zero_le width
  · exact Nat.min_le_right _ _

/-- Numbers that are drawn below a range are below it, and there are as many as were
asked for. -/
theorem belowTimes_lt {range : Nat} (hrange : 0 < range) (n position : Nat) :
    (Random.belowTimes w range n position).1.length = n ∧
      ∀ i ∈ (Random.belowTimes w range n position).1, i < range := by
  induction n generalizing position with
  | zero => exact ⟨rfl, nofun⟩
  | succ n ih =>
      obtain ⟨hlength, hlt⟩ := ih (Random.below w range position).2
      simp only [Random.belowTimes, List.length_cons, List.mem_cons, hlength, true_and]
      rintro i (rfl | hi)
      · exact Random.below_lt w hrange position
      · exact hlt i hi

theorem drawRows_lt {count : Nat} (hcount : 0 < count) :
    (drawRows s w count).1.length = count ∧ ∀ i ∈ (drawRows s w count).1, i < count := by
  rw [drawRows]
  split
  · exact belowTimes_lt w hcount count 0
  · simp

section drawColumns

variable (width position : Nat)

/-- The drawn features are some of those that there are. -/
theorem drawColumns_subperm :
    (drawColumns s w width position).Subperm (List.range width) := by
  have hsort := List.mergeSort_perm
    ((Random.shuffle w (List.range width) position).1.take (s.featuresPerTree width))
    (fun a b => decide (a ≤ b))
  have htake := (List.take_sublist (s.featuresPerTree width)
    (Random.shuffle w (List.range width) position).1).subperm
  exact hsort.subperm.trans (htake.trans (Random.shuffle_perm w _ position).subperm)

theorem drawColumns_lt : ∀ j ∈ drawColumns s w width position, j < width := by
  intro j hj
  exact List.mem_range.mp ((drawColumns_subperm s w width position).subset hj)

theorem drawColumns_nodup : (drawColumns s w width position).Nodup := by
  obtain ⟨columns, hperm, hsublist⟩ := drawColumns_subperm s w width position
  exact hperm.nodup_iff.mp (hsublist.nodup List.nodup_range)

/-- The features are drawn by swaps, none of which reaches out of the row. -/
theorem exists_drawColumns_eq_swaps :
    ∃ partner : Nat → Nat, (∀ i < width, partner i < width) ∧
      drawColumns s w width position =
        ((Random.swaps partner (List.range width)).take
          (s.featuresPerTree width)).mergeSort := by
  obtain ⟨partner, hpartner, hswaps⟩ :=
    Random.exists_shuffle_eq_swaps w (List.range width) position
  rw [List.length_range] at hpartner
  refine ⟨partner, hpartner, ?_⟩
  rw [drawColumns, hswaps]

theorem length_drawColumns :
    (drawColumns s w width position).length = s.featuresPerTree width := by
  simp [drawColumns, featuresPerTree_le]

end drawColumns

/-- The random words for the tree with a given number. -/
def wordsFor (number : Nat) : Random.Words :=
  Random.seeded (s.seed + UInt64.ofNat number)

variable (t : TrainingSet) (number : Nat)

def placesFor : List Nat := (drawRows s (wordsFor s number) t.size).1

def columnsFor : List Nat :=
  drawColumns s (wordsFor s number) t.width (drawRows s (wordsFor s number) t.size).2

theorem growTree_eq :
    growTree s t number =
      Growth.grow s.growth (columnsFor s t number) (Table.samplesAt t (placesFor s t number)) := by
  simp only [growTree, columnsFor, placesFor, wordsFor, Table.samplesAt,
    List.getElem?_toArray]

/-- A tree that was grown on as many samples as there are, all of them from the training
set, and that asks for no more than its share of features. -/
structure Drawn (root : Tree Verdict) : Prop where
  places_length : (placesFor s t number).length = t.size
  places_lt : ∀ i ∈ placesFor s t number, i < t.size
  columns_length : (columnsFor s t number).length = s.featuresPerTree t.width
  columns_nodup : (columnsFor s t number).Nodup
  columns_lt : ∀ j ∈ columnsFor s t number, j < t.width
  columns_swapped : ∃ partner : Nat → Nat, (∀ i < t.width, partner i < t.width) ∧
    columnsFor s t number =
      ((Random.swaps partner (List.range t.width)).take
        (s.featuresPerTree t.width)).mergeSort
  within : (root.map (·.code)).Within s.maxDepth (columnsFor s t number)
  features_le : root.features.dedup.length ≤ s.featuresPerTree t.width

theorem size_pos : 0 < t.size := List.length_pos_iff.mpr t.samples_ne_nil

theorem growTree_drawn : Drawn s t number (growTree s t number) := by
  obtain ⟨hlength, hlt⟩ := drawRows_lt s (wordsFor s number) (size_pos t)
  have hcolumns := length_drawColumns s (wordsFor s number) t.width
    (drawRows s (wordsFor s number) t.size).2
  have hfeatures : (growTree s t number).features ⊆ columnsFor s t number := by
    rw [growTree_eq]
    exact Growth.features_grow_subset s.growth _ _
  refine ⟨hlength, hlt, hcolumns, drawColumns_nodup s _ _ _, drawColumns_lt s _ _ _,
    exists_drawColumns_eq_swaps s _ _ _, ?_, ?_⟩
  · rw [growTree_eq]
    exact Growth.grow_within s.growth _ _
  · have hsubset : (growTree s t number).features.dedup ⊆ columnsFor s t number :=
      List.Subset.trans (List.dedup_subset _) hfeatures
    have hsubperm := List.subperm_of_subset (List.nodup_dedup _) hsubset
    exact hsubperm.length_le.trans_eq hcolumns

/-- Every tree of a forest is grown without a fault. -/
theorem growForest_eq_ok {x : Table} {t : TrainingSet} (h : x.Holds t) :
    x.growForest s t.width = .ok ((grow s t).map (·.map (·.code))) := by
  rw [Table.growForest, mapM_eq_ok_iff, grow, List.map_map, List.map_map]
  apply List.map_congr_left
  intro number _
  have hdrawn := growTree_drawn s t number
  have hgrow := Table.grow_eq_ok h s.growth hdrawn.columns_lt hdrawn.places_lt
  rw [Function.comp_apply, Function.comp_apply, growTree_eq, Table.growTree, h.size_eq]
  exact hgrow

theorem features_lt {tree : Tree Verdict} (htree : tree ∈ grow s t) :
    ∀ j ∈ tree.features, j < t.width := by
  obtain ⟨number, -, rfl⟩ := List.mem_map.mp htree
  have hdrawn := growTree_drawn s t number
  intro j hj
  have hmem := hdrawn.within.features_subset
  rw [Growth.features_map] at hmem
  exact hdrawn.columns_lt j (hmem hj)

end Forest

namespace Classifier

/-- A tree grown on all samples of a table, and what becomes of a classifier and of
rows of one width by it. -/
structure TreeIsSafe (c : TreeClassifier) (rows : List Features) (codes : List Nat)
    (t : TrainingSet) (root : Tree Verdict) : Prop where
  learn_eq : (tree c).learn rows codes =
    (.ok ⟨⟩, tree { c with root? := some root, width? := some t.width })
  grow_eq : Table.grow ⟨rows.toArray, codes.toArray⟩ c.settings (List.range t.width)
    c.settings.maxDepth (List.range rows.length) = .ok (root.map (·.code))
  within : (root.map (·.code)).Within c.settings.maxDepth (List.range t.width)
  predict_eq : ∀ row : Features, row.size = t.width → ∃ v,
    ((tree c).learn rows codes).2.predict row = .ok v ∧
      Guarded.classify row (root.map (·.code)) = .ok v.code

/-- The same for a forest, whose trees are grown on what is drawn for them. -/
structure ForestIsSafe (c : ForestClassifier) (rows : List Features) (codes : List Nat)
    (t : TrainingSet) (trees : List (Tree Verdict)) : Prop where
  learn_eq : (forest c).learn rows codes =
    (.ok ⟨⟩, forest { c with trees, width? := some t.width })
  grow_eq : Table.growForest ⟨rows.toArray, codes.toArray⟩ c.settings t.width =
    .ok (trees.map (·.map (·.code)))
  length_eq : trees.length = c.settings.trees
  drawn : ∀ (number : Nat) (root : Tree Verdict), trees[number]? = some root →
    Forest.Drawn c.settings t number root
  predict_eq : ∀ row : Features, row.size = t.width → ∃ v,
    ((forest c).learn rows codes).2.predict row = .ok v ∧
      Guarded.vote (trees.map (·.map (·.code))) row = .ok v.code

section safe

variable {rows : List Features} {codes : List Nat} {t : TrainingSet}
  (haccepted : TrainingSet.make rows codes = .ok t)

include haccepted

theorem exists_treeIsSafe (c : TreeClassifier) : ∃ root, TreeIsSafe c rows codes t root := by
  have hholds := Table.holds_of_make haccepted
  have hlearn : (tree c).learn rows codes = (.ok ⟨⟩, (tree c).store t) := by
    rw [learn_eq, haccepted]
  have hsize : rows.length = t.size := by
    simpa using hholds.size_eq
  refine ⟨Growth.grow c.settings (List.range t.width) t.samples, hlearn, ?_,
    Growth.grow_within _ _ _, ?_⟩
  · have hgrow := Table.grow_eq_ok hholds c.settings
      (fun j hj => List.mem_range.mp hj) (fun i hi => List.mem_range.mp hi)
    rwa [Table.samplesAt_range, ← hsize] at hgrow
  · intro row hrow
    refine ⟨(tree c).answer t row, ?_, ?_⟩
    · rw [hlearn]
      change (checkWidth (some t.width) row >>= fun _ => _) = _
      rw [checkWidth_eq_ok hrow]
      rfl
    · apply Guarded.classify_eq_ok
      intro j hj
      rw [hrow]
      exact List.mem_range.mp (Growth.features_grow_subset _ _ _ hj)

theorem exists_forestIsSafe (c : ForestClassifier) (hvalid : c.settings.problem? = none) :
    ∃ trees, ForestIsSafe c rows codes t trees := by
  have hlearn : (forest c).learn rows codes = (.ok ⟨⟩, (forest c).store t) := by
    rw [learn_eq, haccepted]
  refine ⟨Forest.grow c.settings t, hlearn, Forest.growForest_eq_ok _
    (Table.holds_of_make haccepted), Forest.length_grow _ _, ?_, ?_⟩
  · intro number root hroot
    rw [Forest.grow, List.getElem?_map] at hroot
    obtain ⟨i, hi, rfl⟩ := Option.map_eq_some_iff.mp hroot
    obtain ⟨hlt, rfl⟩ := List.getElem?_eq_some_iff.mp hi
    rw [List.getElem_range]
    exact Forest.growTree_drawn c.settings t number
  · intro row hrow
    refine ⟨(forest c).answer t row, ?_, ?_⟩
    · exact predict_learn (c := forest c) t hvalid haccepted hrow
    · apply Guarded.vote_eq_ok
      intro root hroot j hj
      rw [hrow]
      exact Forest.features_lt _ _ hroot j hj

/-- Whatever a tree or a forest is fitted to, no step of growing or asking reaches out
of a list or below zero, and all its trees keep to what they are given. -/
theorem learn_safe (c : TreeClassifier) (f : ForestClassifier)
    (hforest : f.settings.problem? = none) :
    (∃ root, TreeIsSafe c rows codes t root) ∧
      ∃ trees, ForestIsSafe f rows codes t trees :=
  ⟨exists_treeIsSafe haccepted c, exists_forestIsSafe haccepted f hforest⟩

end safe

/-- A forest whose second tree goes on with seed zero behind the last seed. -/
theorem learn_safe_seeds_around :
    Learnable [#[0.0, 1.0], #[2.0, 1.0], #[0.0, 3.0]] [0, 1, 1] ∧
    ({ ForestSettings.standard with trees := 2, seed := 18446744073709551615 } :
      ForestSettings).problem? = none ∧
    ∃ t, TrainingSet.make [#[0.0, 1.0], #[2.0, 1.0], #[0.0, 3.0]] [0, 1, 1] = .ok t ∧
      (∃ root, TreeIsSafe (.fresh .standard) [#[0.0, 1.0], #[2.0, 1.0], #[0.0, 3.0]]
        [0, 1, 1] t root) ∧
      ∃ trees, ForestIsSafe
          (.fresh { ForestSettings.standard with trees := 2, seed := 18446744073709551615 })
          [#[0.0, 1.0], #[2.0, 1.0], #[0.0, 3.0]] [0, 1, 1] t trees ∧
        (#[1.0, 1.0] : Features).size = t.width ∧
        ∃ v : Verdict, Guarded.vote (trees.map (·.map (·.code))) #[1.0, 1.0] = .ok v.code := by
  have hlearnable : Learnable [#[0.0, 1.0], #[2.0, 1.0], #[0.0, 3.0]] [0, 1, 1] := by
    decide +kernel
  have hvalid : ({ ForestSettings.standard with trees := 2, seed := 18446744073709551615 } :
      ForestSettings).problem? = none := by decide +kernel
  obtain ⟨t, ht, hwidth⟩ := TrainingSet.exists_make_eq_ok hlearnable
  obtain ⟨htree, trees, htrees⟩ := learn_safe ht (.fresh .standard)
    (.fresh { ForestSettings.standard with trees := 2, seed := 18446744073709551615 }) hvalid
  have hrow : (#[1.0, 1.0] : Features).size = t.width := hwidth #[0.0, 1.0] List.mem_cons_self
  obtain ⟨v, -, hv⟩ := htrees.predict_eq #[1.0, 1.0] hrow
  exact ⟨hlearnable, hvalid, t, ht, htree, trees, htrees, hrow, v, hv⟩

end Classifier

end Credence
