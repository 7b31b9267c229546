/-
Which samples have a vote.  They are as many as may vote of those that come first by
distance and then by their place in the training set, and most of them decide.
-/
import Credence.Proofs.Classifier
import Credence.Proofs.Number.NoNumber
import Mathlib.Data.Finset.Card
import Mathlib.Data.List.Sort
import Mathlib.Data.Prod.Lex

namespace Credence

namespace Nearest

section rank

variable {x y row : Features}

/-- The Euclidean distance, feature by feature. -/
theorem distance_eq (h : x.size = row.size) : distance x row =
    Float.sqrt (((List.range row.size).map fun j =>
      (x.column j - row.column j) * (x.column j - row.column j)).foldl (· + ·) 0.0) := by
  have hgaps : x.toList.zipWith squaredGap row.toList = (List.range row.size).map fun j =>
      (x.column j - row.column j) * (x.column j - row.column j) := by
    apply List.ext_getElem
    · simp [h]
    · intro j hx hrange
      have hrow : j < row.size := by simpa using hrange
      simp [Features.column, squaredGap, hrow, h.symm ▸ hrow]
  rw [distance, hgaps]

/-- If one difference is no number, neither is the distance. -/
theorem isNaN_distance {p : Float × Float} (h : gaplessPair? x y = some p) :
    (distance x y).isNaN = true := by
  have hgap : (p.1 - p.2).isNaN = true :=
    List.find?_some (p := fun p : Float × Float => (p.1 - p.2).isNaN) h
  apply Number.isNaN_sqrt
  apply Number.isNaN_foldl_add
  refine ⟨squaredGap p.1 p.2, ?_, Number.isNaN_mul_left hgap _⟩
  rw [← List.map_uncurry_zip_eq_zipWith]
  exact List.mem_map_of_mem (f := Function.uncurry squaredGap) (List.mem_of_find?_eq_some h)

/-- The rank of a sample is the place of its distance, or it is in front of all. -/
theorem rank_cases (x row : Features) :
    rank x row = Number.totalKey (distance x row) ∨
      rank x row = frontRank ∧ (distance x row).isNaN = true := by
  rw [rank]
  cases h : gaplessPair? x row with
  | none => exact Or.inl rfl
  | some p =>
      dsimp only
      split
      · exact Or.inl rfl
      · exact Or.inr ⟨rfl, isNaN_distance h⟩

theorem frontRank_lt (x row : Features) : frontRank < Number.totalKey (distance x row) :=
  Number.neg_one_le_totalKey_sqrt _

/-- How samples are ranked for a row: by their distances in the total order of doubles.
A distance that is no number because of two infinities is in front of all others, and one
that is none because of a feature is behind them. -/
structure RanksByDistance (row : Features) : Prop where
  distance_eq : ∀ x, x.size = row.size → distance x row =
    Float.sqrt (((List.range row.size).map fun j =>
      (x.column j - row.column j) * (x.column j - row.column j)).foldl (· + ·) 0.0)
  number : ∀ x, (distance x row).isNaN = false →
    rank x row = Number.totalKey (distance x row)
  front_iff : ∀ x, rank x row = frontRank ↔
    ∃ p, gaplessPair? x row = some p ∧ p.1.isNaN = false ∧ p.2.isNaN = false
  front : ∀ x y, rank x row = frontRank →
    (distance x row).isNaN = true ∧ (rank y row = frontRank ∨ rank x row < rank y row)
  last : ∀ x y, (distance x row).isNaN = true → rank x row ≠ frontRank →
    (distance y row).isNaN = false → rank y row < rank x row

theorem ranksByDistance (row : Features) : RanksByDistance row where
  distance_eq := fun _ => distance_eq
  number := by
    intro x hx
    rcases rank_cases x row with h | ⟨-, h⟩
    · exact h
    · rw [hx] at h
      cases h
  front_iff := by
    intro x
    have hlt := frontRank_lt x row
    rw [rank]
    cases gaplessPair? x row with
    | none => simp [hlt.ne']
    | some p =>
        dsimp only
        split
        · next hnan =>
            refine iff_of_false hlt.ne' ?_
            rintro ⟨p', hp', hfirst, hsecond⟩
            cases hp'
            rw [hfirst, hsecond] at hnan
            cases hnan
        · next hnumbers =>
            rw [Bool.or_eq_true, not_or, Bool.not_eq_true, Bool.not_eq_true] at hnumbers
            exact iff_of_true rfl ⟨p, rfl, hnumbers⟩
  front := by
    intro x y hx
    have hlt := frontRank_lt x row
    constructor
    · rcases rank_cases x row with h | ⟨-, h⟩
      · omega
      · exact h
    · have hlt := frontRank_lt y row
      rcases rank_cases y row with h | ⟨h, -⟩
      · exact Or.inr (by omega)
      · exact Or.inl h
  last := by
    intro x y hx hfront hy
    have hlt := Number.totalKey_lt_of_isNaN hy hx
    rcases rank_cases x row with h | ⟨h, -⟩
    · rcases rank_cases y row with h' | ⟨-, h'⟩
      · omega
      · rw [hy] at h'
        cases h'
    · exact absurd h hfront

end rank

section neighbourhood

variable (samples : List Sample) (row : Features)

/-- Where a sample stands: by its rank, and among equal ones by its place. -/
def nearness (i : Fin samples.length) : Int ×ₗ Fin samples.length :=
  toLex (rank samples[i].features row, i)

/-- The samples that are nearest to a row, as many as there are up to a limit. -/
structure Neighbourhood (limit : Nat) (s : Finset (Fin samples.length)) : Prop where
  card_eq : s.card = min limit samples.length
  nearer : ∀ i ∈ s, ∀ j ∉ s, nearness samples row i < nearness samples row j

/-- What some samples decide: the class of most of them, or that of the nearest one if
there are as many of either class. -/
structure Decides (s : Finset (Fin samples.length)) (v : Verdict) : Prop where
  majority : ∀ w : Verdict, (s.filter fun i => samples[i].verdict ≠ w).card <
    (s.filter fun i => samples[i].verdict = w).card → v = w
  tie : (s.filter fun i => samples[i].verdict = .positive).card =
      (s.filter fun i => samples[i].verdict = .negative).card →
    ∃ i ∈ s, (∀ j ∈ s, nearness samples row i ≤ nearness samples row j) ∧
      v = samples[i].verdict

/-- The rank of a sample with its class. -/
def ranked (i : Fin samples.length) : Int × Verdict :=
  (rank samples[i].features row, samples[i].verdict)

variable {samples row}

theorem nearness_injective : Function.Injective (nearness samples row) := by
  intro i j h
  exact (Prod.mk.inj (toLex_inj.mp h)).2

theorem rank_le_of_nearness_lt {i j : Fin samples.length}
    (h : nearness samples row i < nearness samples row j) :
    rank samples[i].features row ≤ rank samples[j].features row := by
  rcases Prod.Lex.toLex_lt_toLex.mp h with hlt | ⟨heq, -⟩
  · exact hlt.le
  · exact heq.le

/-- Nothing outside of a neighbourhood is closer than something in it. -/
theorem Neighbourhood.not_closer {limit : Nat} {s : Finset (Fin samples.length)}
    (h : Neighbourhood samples row limit s) {i j : Fin samples.length} (hi : i ∈ s)
    (hj : j ∉ s) : ¬ distance samples[j].features row < distance samples[i].features row := by
  intro hlt
  obtain ⟨hjnumber, hinumber⟩ := Number.isNaN_of_lt hlt
  have hle := rank_le_of_nearness_lt (h.nearer i hi j hj)
  rw [(ranksByDistance row).number _ hinumber, (ranksByDistance row).number _ hjnumber] at hle
  exact Number.not_le_of_lt hlt (Number.le_of_totalLe hinumber hjnumber (decide_eq_true hle))

/-- Of samples of one rank, a neighbourhood takes the earlier ones. -/
theorem Neighbourhood.earlier {limit : Nat} {s : Finset (Fin samples.length)}
    (h : Neighbourhood samples row limit s) {i j : Fin samples.length} (hi : i ∈ s)
    (hj : j ∉ s) (heq : rank samples[i].features row = rank samples[j].features row) :
    i < j := by
  rcases Prod.Lex.toLex_lt_toLex.mp (h.nearer i hi j hj) with hlt | ⟨-, hlt⟩
  · exact absurd heq hlt.ne
  · exact hlt

/-- No other samples are the nearest ones. -/
theorem Neighbourhood.eq {limit : Nat} {s u : Finset (Fin samples.length)}
    (hs : Neighbourhood samples row limit s) (hu : Neighbourhood samples row limit u) :
    s = u := by
  have hcard := hs.card_eq.trans hu.card_eq.symm
  apply Finset.eq_of_subset_of_card_le ?_ hcard.ge
  intro i hi
  by_contra hmissing
  -- as many are missing in one of both as in the other
  have hother : (u \ s).Nonempty := by
    rw [← Finset.card_pos, ← Finset.card_sdiff_comm hcard, Finset.card_pos]
    exact ⟨i, Finset.mem_sdiff.mpr ⟨hi, hmissing⟩⟩
  obtain ⟨j, hj⟩ := hother
  obtain ⟨hju, hjs⟩ := Finset.mem_sdiff.mp hj
  exact lt_asymm (hs.nearer i hi j hjs) (hu.nearer j hju i hmissing)

variable (samples row)

/-- The places of all samples, the nearest one first. -/
def nearestFirst : List (Fin samples.length) :=
  (List.finRange samples.length).mergeSort fun i j =>
    decide (nearness samples row i ≤ nearness samples row j)

theorem nearestFirst_perm :
    (nearestFirst samples row).Perm (List.finRange samples.length) :=
  List.mergeSort_perm _ _

theorem nodup_nearestFirst : (nearestFirst samples row).Nodup :=
  (nearestFirst_perm samples row).nodup_iff.mpr (List.nodup_finRange _)

theorem nearestFirst_pairwise : (nearestFirst samples row).Pairwise fun i j =>
    nearness samples row i < nearness samples row j := by
  have hle : (nearestFirst samples row).Pairwise fun i j =>
      nearness samples row i ≤ nearness samples row j :=
    List.pairwise_mergeSort' (Order.Preimage (nearness samples row) (· ≤ ·)) _
  have hne := nodup_nearestFirst samples row
  refine (hle.and hne).imp ?_
  rintro i j ⟨hij, hne⟩
  exact lt_of_le_of_ne hij (nearness_injective.ne hne)

/-- Among equal ranks the places decide. -/
theorem zipIdxLE_ranked (i j : Fin samples.length) :
    List.zipIdxLE (fun a b => decide (a.1 ≤ b.1)) (ranked samples row i, i.val)
        (ranked samples row j, j.val) =
      decide (nearness samples row i ≤ nearness samples row j) := by
  rw [Bool.eq_iff_iff, decide_eq_true_iff, nearness, nearness, Prod.Lex.toLex_le_toLex,
    List.zipIdxLE]
  change _ ↔ (ranked samples row i).1 < (ranked samples row j).1 ∨
    (ranked samples row i).1 = (ranked samples row j).1 ∧ i ≤ j
  dsimp only
  split_ifs with hle hge
  · rw [le_antisymm (of_decide_eq_true hle) (of_decide_eq_true hge)]
    simp
  · have hlt := lt_of_not_ge (mt decide_eq_true hge)
    simp [hlt]
  · have hlt := lt_of_not_ge (mt decide_eq_true hle)
    simp [hlt.not_gt, hlt.ne']

/-- What is sorted by rank alone, with equal ones left in order, is sorted by rank and
place. -/
theorem byNearness_eq :
    byNearness samples row = (nearestFirst samples row).map (ranked samples row) := by
  have hnumbered : (samples.map fun s => (rank s.features row, s.verdict)).zipIdx =
      (List.finRange samples.length).map fun i => (ranked samples row i, i.val) := by
    apply List.ext_getElem
    · simp
    · intro i hi hi'
      simp [ranked]
  -- a stable sort is the sort of numbered samples, and their numbers are their places
  rw [byNearness, ← List.mergeSort_zipIdx, hnumbered,
    ← List.map_mergeSort fun i _ j _ => (zipIdxLE_ranked samples row i j).symm,
    List.map_map]
  rfl

theorem byNearness_perm : (byNearness samples row).Perm
    (samples.map fun s => (rank s.features row, s.verdict)) :=
  List.mergeSort_perm _ _

theorem byNearness_pairwise :
    (byNearness samples row).Pairwise fun a b => a.1 ≤ b.1 := by
  rw [byNearness_eq, List.pairwise_map]
  exact (nearestFirst_pairwise samples row).imp rank_le_of_nearness_lt

/-- The first places are those of a neighbourhood. -/
theorem neighbourhood_take (limit : Nat) :
    Neighbourhood samples row limit ((nearestFirst samples row).take limit).toFinset where
  card_eq := by
    rw [List.toFinset_card_of_nodup ((nodup_nearestFirst samples row).sublist
      (List.take_sublist _ _)), List.length_take, (nearestFirst_perm samples row).length_eq,
      List.length_finRange]
  nearer := by
    intro i hi j hj
    have hmem : j ∈ nearestFirst samples row :=
      (nearestFirst_perm samples row).mem_iff.mpr (List.mem_finRange j)
    have hsorted := nearestFirst_pairwise samples row
    rw [← List.take_append_drop limit (nearestFirst samples row)] at hmem hsorted
    rw [List.mem_toFinset] at hi hj
    exact (List.pairwise_append.mp hsorted).2.2 i hi j
      ((List.mem_append.mp hmem).resolve_left hj)

theorem voters_eq (s : NearestSettings) : voters s samples row =
    ((nearestFirst samples row).take s.neighbours).map fun i => samples[i].verdict := by
  rw [voters, byNearness_eq, ← List.map_take, List.map_map]
  rfl

/-- Votes are counted by the places they come from. -/
theorem count_map_verdict {order : List (Fin samples.length)} (horder : order.Nodup)
    (v : Verdict) : (order.map fun i => samples[i].verdict).count v =
      (order.toFinset.filter fun i => samples[i].verdict = v).card := by
  have hfilter : (order.toFinset.filter fun i => samples[i].verdict = v) =
      (order.filter fun i => samples[i].verdict == v).toFinset := by
    ext i
    simp
  rw [List.count_eq_countP, List.countP_map, List.countP_eq_length_filter, hfilter,
    List.toFinset_card_of_nodup (horder.filter _)]
  rfl

end neighbourhood

section decision

variable {votes : List Verdict}

/-- The class that has most votes. -/
theorem decision_of_count_lt {v : Verdict} (h : votes.count v.flip < votes.count v) :
    decision votes = v := by
  rw [decision]
  cases v with
  | positive => exact if_pos h
  | negative => exact (if_neg h.not_gt).trans (if_pos h)

theorem decision_of_count_eq (h : votes.count .positive = votes.count .negative) :
    decision votes = votes.head?.getD .negative := by
  rw [decision]
  exact (if_neg h.not_gt).trans (if_neg h.not_lt)

end decision

section vote

variable {samples : List Sample} {row : Features} {s : NearestSettings}

/-- Settings that hold give somebody a vote. -/
theorem take_nearestFirst_ne_nil (hsettings : s.problem? = none) (hsamples : samples ≠ []) :
    (nearestFirst samples row).take s.neighbours ≠ [] := by
  have hlength := (nearestFirst_perm samples row).length_eq
  have hpos := List.length_pos_of_ne_nil hsamples
  have hsome : s.neighbours ≠ 0 := by
    intro hzero
    simp [NearestSettings.problem?, hzero] at hsettings
  rw [List.length_finRange] at hlength
  rw [← List.length_pos_iff, List.length_take]
  omega

/-- The nearest samples decide on the class of a row. -/
theorem decides_classify (hsettings : s.problem? = none) (hsamples : samples ≠ []) :
    Decides samples row ((nearestFirst samples row).take s.neighbours).toFinset
      (classify s samples row) := by
  have hcount := count_map_verdict samples ((nodup_nearestFirst samples row).sublist
    (List.take_sublist s.neighbours _))
  rw [classify, voters_eq]
  constructor
  · intro w hmost
    apply decision_of_count_lt
    rw [hcount, hcount]
    have hother (i : Fin samples.length) :
        samples[i].verdict = w.flip ↔ samples[i].verdict ≠ w := by
      cases samples[i].verdict <;> cases w <;> decide
    simp only [hother]
    exact hmost
  · intro heven
    rw [decision_of_count_eq (by rw [hcount, hcount, heven]), List.head?_map]
    -- the first voter is the nearest one, for they are taken in that order
    have hsorted := (nearestFirst_pairwise samples row).sublist
      (List.take_sublist s.neighbours _)
    obtain ⟨i, rest, hvoters⟩ :=
      List.exists_cons_of_ne_nil (take_nearestFirst_ne_nil hsettings hsamples)
    rw [hvoters] at hsorted ⊢
    refine ⟨i, List.mem_toFinset.mpr List.mem_cons_self, ?_, rfl⟩
    intro j hj
    rcases List.mem_cons.mp (List.mem_toFinset.mp hj) with rfl | hj
    · exact le_refl _
    · exact (List.rel_of_pairwise_cons hsorted hj).le

/-- Where no two samples are equally far, their order does not matter. -/
theorem classify_perm {others : List Sample} (hperm : others.Perm samples)
    (hdistinct : Function.Injective fun i : Fin samples.length =>
      rank samples[i].features row) :
    classify s others row = classify s samples row := by
  have heq : byNearness others row = byNearness samples row := by
    have hall := (byNearness_perm others row).trans
      ((hperm.map _).trans (byNearness_perm samples row).symm)
    refine List.Perm.eq_of_pairwise ?_ (byNearness_pairwise others row)
      (byNearness_pairwise samples row) hall
    intro a b ha hb hab hba
    rw [hall.mem_iff, byNearness_eq, List.mem_map] at ha
    rw [byNearness_eq, List.mem_map] at hb
    obtain ⟨i, -, rfl⟩ := ha
    obtain ⟨j, -, rfl⟩ := hb
    rw [hdistinct (le_antisymm hab hba)]
  rw [classify, voters, heq, classify, voters]

/-- Where all samples vote, their distances only matter in a tie. -/
theorem classify_of_count_lt (hall : samples.length ≤ s.neighbours) {v : Verdict}
    (hmost : (samples.map (·.verdict)).count v.flip < (samples.map (·.verdict)).count v) :
    classify s samples row = v := by
  have hperm : (voters s samples row).Perm (samples.map (·.verdict)) := by
    have hlength : (byNearness samples row).length ≤ s.neighbours := by
      rw [(byNearness_perm samples row).length_eq, List.length_map]
      exact hall
    have hverdicts := (byNearness_perm samples row).map (·.2)
    rw [List.map_map] at hverdicts
    rw [voters, List.take_of_length_le hlength]
    exact hverdicts
  apply decision_of_count_lt
  rw [hperm.count_eq, hperm.count_eq]
  exact hmost

end vote

end Nearest

namespace Classifier

open Nearest

/-- How a classifier that has learnt from some samples answers for a row. -/
structure AnswersByNearness (c : NearestClassifier) (rows : List Features)
    (codes : List Nat) (t : TrainingSet) (row : Features) : Prop where
  samples_eq : t.samples.map (fun s => (s.features, s.verdict.code)) = rows.zip codes
  ranks : RanksByDistance row
  /-- There is one neighbourhood, and it decides. -/
  vote : ∃ s v,
    (∀ s', Neighbourhood t.samples row c.settings.neighbours s' ↔ s' = s) ∧
    ((nearest c).learn rows codes).2.predict row = .ok v ∧ Decides t.samples row s v
  closest : ∀ s, Neighbourhood t.samples row c.settings.neighbours s →
    ∀ i ∈ s, ∀ j ∉ s,
      ¬ distance t.samples[j].features row < distance t.samples[i].features row ∧
      (rank t.samples[i].features row = rank t.samples[j].features row → i < j)
  /-- Without equal distances, samples are of use in any order. -/
  perm : Function.Injective (fun i : Fin t.samples.length =>
      rank t.samples[i].features row) →
    ∀ (others : List Features) (labels : List Nat), others.length = labels.length →
      (others.zip labels).Perm (rows.zip codes) →
      ((nearest c).learn others labels).2.predict row =
        ((nearest c).learn rows codes).2.predict row
  /-- If all samples vote, the class of most of them is that of every row. -/
  all : codes.length ≤ c.settings.neighbours → ∀ v : Verdict,
    codes.count v.flip.code < codes.count v.code →
    ((nearest c).learn rows codes).2.predict row = .ok v

/-- Whatever was learnt, the classes of rows are found by the nearest samples: by as many
of them as may vote, and by the earlier ones of those that are equally far. -/
theorem learn_nearest (c : NearestClassifier) (hvalid : c.settings.problem? = none)
    {rows : List Features} {codes : List Nat} {t : TrainingSet}
    (haccepted : TrainingSet.make rows codes = .ok t) :
    (nearest c).learn rows codes = (.ok ⟨⟩, nearest (c.store t)) ∧
      ∀ row : Features, row.size = t.width → AnswersByNearness c rows codes t row := by
  have hpredict {others : List Features} {labels : List Nat} {u : TrainingSet}
      (hmake : TrainingSet.make others labels = .ok u) {row : Features}
      (hrow : row.size = u.width) : ((nearest c).learn others labels).2.predict row =
        .ok (classify c.settings u.samples row) :=
    predict_learn (c := nearest c) u hvalid hmake hrow
  have houtcome := TrainingSet.outcome_make rows codes
  rw [haccepted] at houtcome
  obtain _ | _ | _ | ⟨hlearnable, -, -, -⟩ := houtcome
  have hpairs := TrainingSet.pairs_of_make haccepted
  refine ⟨by rw [learn_eq, haccepted]; rfl, ?_⟩
  intro row hrow
  constructor
  · exact hpairs
  · exact ranksByDistance row
  · have hfirst := neighbourhood_take t.samples row c.settings.neighbours
    refine ⟨_, _, ?_, hpredict haccepted hrow, decides_classify hvalid t.samples_ne_nil⟩
    intro s'
    constructor
    · intro h
      exact h.eq hfirst
    · rintro rfl
      exact hfirst
  · intro s hs i hi j hj
    exact ⟨hs.not_closer hi hj, hs.earlier hi hj⟩
  · intro hdistinct others labels hlength hperm
    obtain ⟨u, hu, hsame, hwidth⟩ :=
      TrainingSet.exists_make_eq_ok_of_perm haccepted hlength hperm
    rw [hpredict haccepted hrow, hpredict hu (hrow.trans hwidth.symm),
      classify_perm hsame hdistinct]
  · intro hall v hmost
    have hverdicts : codes = (t.samples.map (·.verdict)).map (·.code) := by
      have hsnd := congrArg (List.map Prod.snd) hpairs
      rw [List.map_snd_zip hlearnable.length_eq.ge, List.map_map] at hsnd
      rw [List.map_map, ← hsnd]
      rfl
    have hlength : t.samples.length = codes.length := by
      rw [hverdicts, List.length_map, List.length_map]
    rw [hverdicts, List.count_map_of_injective _ _ fun _ _ => Verdict.code_injective,
      List.count_map_of_injective _ _ fun _ _ => Verdict.code_injective] at hmost
    rw [hpredict haccepted hrow, classify_of_count_lt (hlength.trans_le hall) hmost]

/-- Of two samples that are equally far and of different classes the first one decides,
at another row the order is of no use, and with three votes most of them count. -/
theorem learn_nearest_equally_far :
    (NearestClassifier.fresh ⟨2⟩).settings.problem? = none ∧
    ∃ t, TrainingSet.make [#[1.0], #[-1.0], #[3.0]] [0, 1, 1] = .ok t ∧
      (#[0.0] : Features).size = t.width ∧
      ((nearest (.fresh ⟨2⟩)).learn [#[1.0], #[-1.0], #[3.0]] [0, 1, 1]).2.predict #[0.0] =
        .ok .negative ∧
      (Function.Injective fun i : Fin t.samples.length =>
        rank t.samples[i].features #[0.5]) ∧
      ((nearest (.fresh ⟨2⟩)).learn [#[3.0], #[-1.0], #[1.0]] [1, 1, 0]).2.predict #[0.5] =
        ((nearest (.fresh ⟨2⟩)).learn [#[1.0], #[-1.0], #[3.0]] [0, 1, 1]).2.predict
          #[0.5] ∧
      ((nearest (.fresh ⟨3⟩)).learn [#[1.0], #[-1.0], #[3.0]] [0, 1, 1]).2.predict #[0.0] =
        .ok .positive := by
  let t : TrainingSet :=
    ⟨[⟨#[1.0], .negative⟩, ⟨#[-1.0], .positive⟩, ⟨#[3.0], .positive⟩], 1, nofun,
      by decide +kernel⟩
  have hmake : TrainingSet.make [#[1.0], #[-1.0], #[3.0]] [0, 1, 1] = .ok t := rfl
  have hdistinct : Function.Injective fun i : Fin t.samples.length =>
      rank t.samples[i].features #[0.5] := by decide +kernel
  obtain ⟨-, htwo⟩ := learn_nearest (.fresh ⟨2⟩) rfl hmake
  obtain ⟨-, hthree⟩ := learn_nearest (.fresh ⟨3⟩) rfl hmake
  refine ⟨rfl, t, hmake, rfl, ?_, hdistinct,
    (htwo #[0.5] rfl).perm hdistinct _ _ rfl (by decide +kernel),
    (hthree #[0.0] rfl).all (by decide) .positive (by decide)⟩
  obtain ⟨s, v, hunique, hpredict, hdecides⟩ := (htwo #[0.0] rfl).vote
  have hfirst : Neighbourhood t.samples #[0.0] 2 {0, 1} :=
    ⟨by decide +kernel, by decide +kernel⟩
  obtain rfl := (hunique _).mp hfirst
  obtain ⟨i, hi, hleast, hv⟩ := hdecides.tie (by decide +kernel)
  have hzero : i = 0 := by
    rcases Finset.mem_insert.mp hi with rfl | hi
    · rfl
    · rw [Finset.mem_singleton.mp hi] at hleast
      exact absurd (hleast 0 (by decide)) (by decide +kernel)
  rw [hpredict, hv, hzero]
  rfl

end Classifier

end Credence
