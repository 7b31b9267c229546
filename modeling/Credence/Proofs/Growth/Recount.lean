/-
Counting while scanning and counting afresh.  The scan of a column keeps one running
count, which takes every sample in once.  It finds what is found by counting the samples
on both sides anew for each two neighbouring values, and it keeps the first of the best.
-/
import Credence.Proofs.Growth.Choice
import Credence.Proofs.Growth.Guarded
import Credence.Proofs.Growth.Permutation
import Credence.Proofs.Number.Levels

namespace Credence

namespace Growth

section recount

variable (samples : List Sample) (feature : Nat)

def values : List Float := samples.map fun x => x.features.column feature

/-- The way to part samples between two values of a feature.  The classes are counted
among the samples that are not above the lower one, and among the others. -/
def recount (low high : Float) : Candidate where
  feature := feature
  threshold := (low + high) / 2.0
  left := tally (samples.filter fun x => x.features.column feature ≤ low)
  right := tally (samples.filter fun x => ¬ x.features.column feature ≤ low)

/-- One way for any two levels next to each other. -/
def recounts (levels : List Float) : List Candidate :=
  (levels.zip levels.tail).map fun pair => recount samples feature pair.1 pair.2

variable {samples feature} {others : List Sample}

theorem recounts_perm (h : samples.Perm others) (levels : List Float) :
    recounts samples feature levels = recounts others feature levels := by
  have hrecount : recount samples feature = recount others feature := by
    funext low high
    rw [recount, recount, tally_perm (h.filter _), tally_perm (h.filter _)]
  rw [recounts, recounts, hrecount]

theorem recounts_eq_nil_iff {levels : List Float} :
    recounts samples feature levels = [] ↔ levels.length ≤ 1 := by
  rcases levels with _ | ⟨v, _ | ⟨w, above⟩⟩
  · simp [recounts]
  · simp [recounts]
  · simp [recounts]

theorem Cut.tally_front (k : Cut) :
    tally k.front = (tally k.before).add k.last.verdict := by
  rw [← foldl_add_empty, ← foldl_add_empty, Cut.front, List.map_append, List.foldl_append]
  rfl

/-- At a place in the order of the samples, the samples in front are those that are not
above the value there. -/
theorem recount_cut (k : Cut) {low high : Float}
    (hpairwise : (k.front ++ k.back).Pairwise fun x y =>
      x.features.column feature ≤ y.features.column feature)
    (hlt : k.last.features.column feature < k.first.features.column feature)
    (hlow : (k.last.features.column feature == low) = true)
    (hhigh : (k.first.features.column feature == high) = true) :
    recount (k.front ++ k.back) feature low high =
      k.candidate feature (tally (k.front ++ k.back)) .empty := by
  obtain ⟨hlast, hlownan⟩ := Number.isNaN_of_beq hlow
  have hlowkey := Number.orderKey_eq_of_beq hlow
  have hle : k.last.features.column feature ≤ low := by
    rw [Number.le_iff hlast hlownan]
    exact hlowkey.le
  have habove : low < k.first.features.column feature := by
    rw [Number.lt_iff hlownan (Number.isNaN_of_lt hlt).2, ← hlowkey]
    exact Number.orderKey_lt_of_lt hlt
  obtain ⟨hleft, hright⟩ := k.filter_le hpairwise hle habove
  rw [recount, hleft, hright, Cut.candidate]
  simp only [foldl_add_empty, tally_append_without,
    Number.add_congr_of_beq hlt hlow hhigh]

/-- The scan has counted `front` when it comes to what stands behind.  There it finds
what counting afresh finds. -/
theorem candidatesFrom_eq_recounts (front : List Sample) {back : List Sample}
    {levels : List Float}
    (hpairwise : (front ++ back).Pairwise fun x y =>
      x.features.column feature ≤ y.features.column feature)
    (hlevels : Number.Levels (values back feature) levels) :
    candidatesFrom feature (tally (front ++ back)) (tally front)
        (back.map fun x => (x.features.column feature, x.verdict)) =
      recounts (front ++ back) feature levels := by
  induction back generalizing front levels with
  | nil =>
      rw [hlevels.eq_nil]
      rfl
  | cons x back ih =>
      rcases back with _ | ⟨y, rest⟩
      · obtain ⟨v, above, rfl, hxv⟩ := hlevels.exists_head nofun
        rw [(hlevels.tail hxv nofun).eq_nil]
        rfl
      · let k : Cut := ⟨front, x, y, rest⟩
        have hwhole : front ++ x :: y :: rest = k.front ++ y :: rest := by
          simp [k, Cut.front]
        rw [hwhole] at hpairwise ⊢
        have hacross := (List.pairwise_append.mp hpairwise).2.2
        have hxy : x.features.column feature ≤ y.features.column feature :=
          hacross x (List.mem_append_right _ List.mem_cons_self) y List.mem_cons_self
        rw [List.map_cons, List.map_cons, candidatesFrom_cons_cons, ← k.tally_front]
        by_cases hequal : (x.features.column feature == y.features.column feature) = true
        · rw [if_pos hequal]
          exact ih k.front hpairwise (hlevels.of_cons_beq hequal)
        · have hlt := Number.lt_of_le_of_beq hxy (Bool.eq_false_of_not_eq_true hequal)
          have hle : ∀ z ∈ values rest feature, y.features.column feature ≤ z := by
            intro z hz
            obtain ⟨s, hs, rfl⟩ := List.mem_map.mp hz
            exact List.rel_of_pairwise_cons (List.pairwise_append.mp hpairwise).2.1 hs
          obtain ⟨v, w, above, rfl, hxv, hyw, habove⟩ := hlevels.exists_first_two hlt hle
          have hfirst := recount_cut k hpairwise hlt hxv hyw
          rw [Cut.candidate, foldl_add_empty] at hfirst
          rw [if_neg hequal]
          exact congrArg₂ List.cons hfirst.symm (ih k.front hpairwise habove)

/-- The ways to part samples by a feature are those that are found by counting afresh. -/
theorem candidates_eq_recounts {levels : List Float} (hnumbers : Numbers [feature] samples)
    (hlevels : Number.Levels (values samples feature) levels) :
    candidates samples feature = recounts samples feature levels := by
  have hperm := inOrder_perm samples feature
  have hordered : Number.Levels (values (inOrder samples feature) feature) levels :=
    hlevels.of_perm (hperm.symm.map _)
  rw [candidates, sortedColumn_eq, ← tally_perm hperm, ← recounts_perm hperm]
  exact candidatesFrom_eq_recounts [] (inOrder_pairwise_le hnumbers) hordered

end recount

section columns

variable (samples : List Sample) (columns : List Nat) (levels : Nat → List Float)

/-- The levels of some features. -/
def HasLevels : Prop :=
  ∀ feature ∈ columns, Number.Levels (values samples feature) (levels feature)

/-- All ways to part samples by some features, each one counted afresh. -/
def allRecounts : List Candidate :=
  columns.flatMap fun feature => recounts samples feature (levels feature)

/-- The best way to part samples as counting afresh finds it.  It may be either zero
that stands for zero among the levels. -/
structure Recounted (best : Option Candidate) : Prop where
  exists_levels : ∃ levels, HasLevels samples columns levels
  eq_foldl : ∀ levels, HasLevels samples columns levels →
    best = (allRecounts samples columns levels).foldl better none
  eq_some_iff : samples.length ≤ Number.maxCount → ∀ levels,
    HasLevels samples columns levels → ∀ c,
      best = some c ↔ FirstBest (allRecounts samples columns levels) c
  impurity_eq : ∀ levels, HasLevels samples columns levels →
    ∀ c ∈ allRecounts samples columns levels, c.impurity =
      (Float.ofNat c.left.total * c.left.roundedGini +
        Float.ofNat c.right.total * c.right.roundedGini) /
      Float.ofNat samples.length
  eq_none_iff : best = none ↔ ∀ feature ∈ columns, ∀ x ∈ samples, ∀ y ∈ samples,
    (x.features.column feature == y.features.column feature) = true

variable {samples columns levels}

theorem hasLevels_levelsOf (hnumbers : Numbers columns samples) :
    HasLevels samples columns fun feature => Number.levelsOf (values samples feature) := by
  intro feature hfeature
  apply Number.levels_levelsOf
  intro value hvalue
  obtain ⟨x, hx, rfl⟩ := List.mem_map.mp hvalue
  exact hnumbers x hx feature hfeature

theorem flatMap_candidates_eq (hnumbers : Numbers columns samples)
    (hlevels : HasLevels samples columns levels) :
    columns.flatMap (candidates samples) = allRecounts samples columns levels := by
  apply List.flatMap_congr
  intro feature hfeature
  exact candidates_eq_recounts (hnumbers.column hfeature) (hlevels feature hfeature)

theorem allRecounts_eq_nil_iff (hlevels : HasLevels samples columns levels) :
    allRecounts samples columns levels = [] ↔
      ∀ feature ∈ columns, ∀ x ∈ samples, ∀ y ∈ samples,
        (x.features.column feature == y.features.column feature) = true := by
  rw [allRecounts, List.flatMap_eq_nil_iff]
  apply forall₂_congr
  intro feature hfeature
  rw [recounts_eq_nil_iff, (hlevels feature hfeature).length_le_one_iff]
  simp [values]

/-- The running count of the scan is right wherever it is read. -/
theorem bestSplit?_recounted (hnumbers : Numbers columns samples) :
    Recounted samples columns (bestSplit? samples columns) where
  exists_levels := ⟨_, hasLevels_levelsOf hnumbers⟩
  eq_foldl levels hlevels := by
    rw [bestSplit?, flatMap_candidates_eq hnumbers hlevels]
  eq_some_iff hcount levels hlevels c := by
    rw [← flatMap_candidates_eq hnumbers hlevels, bestSplit?]
    apply foldl_better_eq_some_iff
    intro b hb
    obtain ⟨feature, -, hmem⟩ := List.mem_flatMap.mp hb
    exact isNaN_impurity hmem hcount
  impurity_eq levels hlevels c hc := by
    rw [← flatMap_candidates_eq hnumbers hlevels] at hc
    obtain ⟨feature, -, hmem⟩ := List.mem_flatMap.mp hc
    obtain ⟨-, k, htaken⟩ := exists_takenAt_of_mem_candidates hmem
    exact htaken.impurity_eq
  eq_none_iff := by
    have hlevels := hasLevels_levelsOf hnumbers
    rw [bestSplit?, foldl_better_eq_none_iff, flatMap_candidates_eq hnumbers hlevels,
      allRecounts_eq_nil_iff hlevels]

end columns

end Growth

namespace Table

open Growth

/-- Whatever places in a table are scanned, with repetitions or without, the scan gives
what counting afresh gives for the samples there. -/
theorem scan_recounted {rows : List Features} {codes : List Nat} {t : TrainingSet}
    (haccepted : TrainingSet.make rows codes = .ok t)
    (hnumbers : ∀ row ∈ rows, ∀ x ∈ row, x.isNaN = false) {places columns : List Nat}
    (hne : places ≠ []) (hplaces : ∀ i ∈ places, i < rows.length)
    (hcolumns : ∀ j ∈ columns, j < t.width) :
    ∃ best, bestSplit? ⟨rows.toArray, codes.toArray⟩ places columns = .ok best ∧
      Growth.bestSplit? (samplesAt t places) columns = best ∧
      Recounted (samplesAt t places) columns best := by
  have hholds := holds_of_make haccepted
  have hsize : rows.length = t.size := by
    simpa using hholds.size_eq
  rw [hsize] at hplaces
  have hsamples : samplesAt t places ⊆ t.samples := by
    intro s hs
    obtain ⟨i, -, hi⟩ := List.mem_filterMap.mp hs
    exact List.mem_of_getElem? hi
  refine ⟨_, bestSplit?_eq_ok hholds hplaces hcolumns hne, rfl, ?_⟩
  apply bestSplit?_recounted
  exact (Classifier.numbers_of_make haccepted hnumbers columns).mono hsamples

/-- Rows with a column of three values and a column with both zeros. -/
def bothZeros : List Features := [#[1.0, -0.0], #[2.0, 0.0], #[3.0, 0.5]]

/-- The second threshold is better than the first one and as good as the third one.  Both
zeros are one value, and what comes twice counts twice. -/
theorem scan_recounted_bothZeros :
    Learnable bothZeros [1, 1, 0] ∧
    (∀ row ∈ bothZeros, ∀ x ∈ row, x.isNaN = false) ∧
    (∀ i ∈ [1, 0, 2, 0, 1], i < bothZeros.length) ∧
    bestSplit? ⟨bothZeros.toArray, #[1, 1, 0]⟩ [1, 0, 2, 0, 1] [0, 1] =
      .ok (some ⟨0, 2.5, ⟨4, 4⟩, ⟨0, 1⟩⟩) := by
  have hlearnable : Learnable bothZeros [1, 1, 0] := by decide +kernel
  have hnumbers : ∀ row ∈ bothZeros, ∀ x ∈ row, x.isNaN = false := by decide +kernel
  have hplaces : ∀ i ∈ [1, 0, 2, 0, 1], i < bothZeros.length := by decide
  let t : TrainingSet := {
    samples := [⟨#[1.0, -0.0], .positive⟩, ⟨#[2.0, 0.0], .positive⟩,
      ⟨#[3.0, 0.5], .negative⟩]
    width := 2
    samples_ne_nil := by decide
    size_eq_width := by decide }
  have haccepted : TrainingSet.make bothZeros [1, 1, 0] = .ok t := rfl
  have hcolumns : ∀ j ∈ [0, 1], j < t.width := by decide
  obtain ⟨best, hbest, -, hrecounted⟩ :=
    scan_recounted haccepted hnumbers (List.cons_ne_nil _ _) hplaces hcolumns
  let levels (j : Nat) : List Float := if j = 0 then [1.0, 2.0, 3.0] else [-0.0, 0.5]
  have hlevels : HasLevels (samplesAt t [1, 0, 2, 0, 1]) [0, 1] levels := by
    intro j hj
    rcases List.mem_pair.mp hj with rfl | rfl
    · exact ⟨by decide +kernel, by decide +kernel, by decide +kernel⟩
    · exact ⟨by decide +kernel, by decide +kernel, by decide +kernel⟩
  have hfirst : FirstBest (allRecounts (samplesAt t [1, 0, 2, 0, 1]) [0, 1] levels)
      ⟨0, 2.5, ⟨4, 4⟩, ⟨0, 1⟩⟩ :=
    ⟨[⟨0, 1.5, ⟨2, 2⟩, ⟨2, 3⟩⟩], [⟨1, 0.25, ⟨4, 4⟩, ⟨0, 1⟩⟩], by decide +kernel,
      by decide +kernel, by decide +kernel⟩
  have hcount : (samplesAt t [1, 0, 2, 0, 1]).length ≤ Number.maxCount := by decide +kernel
  rw [(hrecounted.eq_some_iff hcount levels hlevels _).mpr hfirst] at hbest
  exact ⟨hlearnable, hnumbers, hplaces, hbest⟩

end Table

end Credence
