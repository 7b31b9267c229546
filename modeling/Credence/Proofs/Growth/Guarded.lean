/-
Growing a tree never runs into a fault.  On a table that holds the samples of a training
set, with places below its size and columns below its width, each guarded step gives
what the plain step gives for the samples at these places.
-/
import Credence.Classifier.Guarded
import Credence.Proofs.Growth.Candidates
import Credence.Proofs.TrainingSet

namespace Credence

section steps

variable {α β : Type}

namespace Guarded

theorem entry_eq_ok (fault : Nat → Fault) {xs : Array α} {i : Nat} {a : α}
    (h : xs[i]? = some a) : entry fault xs i = .ok a := by
  rw [entry, h]

theorem minus_eq_ok {whole part : Nat} (h : part ≤ whole) :
    minus whole part = .ok (whole - part) := if_pos h

@[simp] theorem isPositive_code (v : Verdict) :
    isPositive v.code = decide (v = .positive) := by
  cases v <;> rfl

/-- A fold whose steps do not fail is a plain one. -/
theorem foldlM_eq_ok {f : β → α → Guarded β} {g : β → α → β} {xs : List α}
    (h : ∀ x ∈ xs, ∀ b, f b x = .ok (g b x)) (b : β) :
    xs.foldlM f b = .ok (xs.foldl g b) := by
  induction xs generalizing b with
  | nil => rfl
  | cons x xs ih =>
      rw [List.foldlM_cons, h x List.mem_cons_self]
      exact ih (fun y hy => h y (List.mem_cons_of_mem x hy)) (g b x)

/-- Verdicts are counted by their codes. -/
theorem countP_isPositive (vs : List Verdict) :
    (vs.map (·.code)).countP isPositive = vs.count .positive := by
  rw [List.countP_map, List.count_eq_countP]
  congr 1
  funext v
  cases v <;> rfl

end Guarded

end steps

namespace Guarded

section scan

open Growth

/-- An entry of a column with the code of its class. -/
def coded (a : Float × Verdict) : Float × Nat := (a.1, a.2.code)

def countsOf (column : List (Float × Verdict)) : Tally :=
  .ofVerdicts (column.map (·.2))

/-- A sorted column has the counts of the samples that it was read from. -/
theorem countsOf_sortedColumn (samples : List Sample) (j : Nat) :
    countsOf (sortedColumn samples j) = tally samples := by
  rw [sortedColumn_eq, countsOf, List.map_map]
  exact tally_perm (inOrder_perm samples j)

variable (feature : Nat)

/-- One step of the scan passes the entry behind `front` and looks at the one after
it. -/
theorem scanStep_eq_ok (front rest : List (Float × Verdict)) (a b : Float × Verdict)
    (best : Option Candidate) :
    scanStep feature (countsOf (front ++ a :: b :: rest))
        ((front ++ a :: b :: rest).map coded).toArray ⟨(countsOf front).positive, best⟩
        front.length =
      .ok ⟨(countsOf (front ++ [a])).positive,
        if a.1 == b.1 then best
        else better best ⟨feature, (a.1 + b.1) / 2.0, countsOf (front ++ [a]),
          (countsOf (front ++ a :: b :: rest)).without (countsOf (front ++ [a]))⟩⟩ := by
  rcases a with ⟨value, v⟩
  rcases b with ⟨next, w⟩
  have hhere : ((front ++ (value, v) :: (next, w) :: rest).map coded).toArray[front.length]? =
      some (value, v.code) := by simp [coded]
  have hnext : ((front ++ (value, v) :: (next, w) :: rest).map coded).toArray[front.length + 1]? =
      some (next, w.code) := by simp [coded]
  have hpositive : (countsOf front).positive + (if isPositive v.code then 1 else 0) =
      (countsOf (front ++ [(value, v)])).positive := by
    cases v <;> simp [countsOf, Tally.ofVerdicts]
  have htotal : front.length + 1 ≤
      (countsOf (front ++ (value, v) :: (next, w) :: rest)).total := by
    simp [countsOf, Tally.ofVerdicts]
  have hle : (countsOf (front ++ [(value, v)])).positive ≤
      (countsOf (front ++ (value, v) :: (next, w) :: rest)).positive := by
    simp only [countsOf, Tally.ofVerdicts, List.map_append, List.map_cons, List.map_nil,
      List.count_append, List.count_cons, List.count_nil]
    omega
  rw [scanStep, entry_eq_ok _ hhere, entry_eq_ok _ hnext]
  simp only [bind, Except.bind]
  rw [hpositive, minus_eq_ok htotal, minus_eq_ok hle]
  split
  · rfl
  · simp [pure, Except.pure, countsOf, Tally.ofVerdicts, Tally.without]

/-- What stands behind `front` is passed entry by entry.  Both the scan and the plain
list of candidates have counted `front` by then. -/
theorem foldlM_scanStep (front back : List (Float × Verdict)) (best : Option Candidate) :
    ∃ positive, (List.range' front.length (back.length - 1)).foldlM
        (scanStep feature (countsOf (front ++ back)) ((front ++ back).map coded).toArray)
        ⟨(countsOf front).positive, best⟩ =
      .ok ⟨positive, (candidatesFrom feature (countsOf (front ++ back)) (countsOf front)
        back).foldl better best⟩ := by
  induction back generalizing front best with
  | nil => exact ⟨_, rfl⟩
  | cons a back ih =>
      cases back with
      | nil => exact ⟨_, rfl⟩
      | cons b rest =>
          have hmore : (a :: b :: rest).length - 1 = rest.length + 1 := rfl
          have hcounts : (countsOf front).add a.2 = countsOf (front ++ [a]) := by
            rcases a with ⟨value, v⟩
            cases v <;> simp [countsOf, Tally.ofVerdicts, Tally.add]
          rw [hmore, List.range'_succ, List.foldlM_cons, scanStep_eq_ok, candidatesFrom,
            hcounts]
          obtain ⟨positive, hrest⟩ := ih (front ++ [a])
            (if a.1 == b.1 then best
              else better best ⟨feature, (a.1 + b.1) / 2.0, countsOf (front ++ [a]),
                (countsOf (front ++ a :: b :: rest)).without (countsOf (front ++ [a]))⟩)
          rw [List.append_assoc, List.singleton_append, List.length_append] at hrest
          refine ⟨positive, hrest.trans ?_⟩
          split
          · rfl
          · rfl

/-- A scan finds what the plain list of candidates holds. -/
theorem scan_eq_ok {column : List (Float × Verdict)} (hne : column ≠ [])
    (best : Option Candidate) :
    scan feature (countsOf column) (column.map coded) best =
      .ok ((candidatesFrom feature (countsOf column) .empty column).foldl better best) := by
  have hpos : 1 ≤ (countsOf column).total := by
    simpa [countsOf, Tally.ofVerdicts] using Nat.succ_le_of_lt (List.length_pos_iff.mpr hne)
  have htotal : (countsOf column).total - 1 = column.length - 1 := by
    simp [countsOf, Tally.ofVerdicts]
  obtain ⟨positive, hfold⟩ := foldlM_scanStep feature [] column best
  rw [List.length_nil, ← List.range_eq_range', ← htotal] at hfold
  rw [scan, minus_eq_ok hpos]
  exact congrArg (· >>= fun s => pure s.best) hfold

end scan

/-- A row that is wide enough for the questions of a tree gets a class from it. -/
theorem classify_eq_ok {row : Features} {tree : Tree Verdict}
    (h : ∀ j ∈ tree.features, j < row.size) :
    classify row (tree.map (·.code)) = .ok (tree.classify row).code := by
  induction tree with
  | leaf v => rfl
  | split feature threshold left right ihl ihr =>
      simp only [Tree.features, List.mem_cons, List.mem_append, forall_eq_or_imp] at h
      have hvalue : row[feature]? = some (row.column feature) := by
        simp [Features.column, h.1]
      have hleft := ihl fun j hj => h.2 j (Or.inl hj)
      have hright := ihr fun j hj => h.2 j (Or.inr hj)
      simp only [Tree.map, classify, Tree.classify, Tree.goesLeft,
        entry_eq_ok _ hvalue, bind, Except.bind, hleft, hright]
      simp only [decide_eq_true_eq]
      split
      · rfl
      · rfl

/-- And so it gets one from a number of trees. -/
theorem vote_eq_ok {row : Features} {trees : List (Tree Verdict)}
    (h : ∀ tree ∈ trees, ∀ j ∈ tree.features, j < row.size) :
    vote (trees.map (·.map (·.code))) row = .ok (Forest.classify trees row).code := by
  have hcodes : (trees.map (·.map Verdict.code)).mapM (classify row) =
      .ok ((trees.map (Tree.classify row)).map (·.code)) := by
    rw [mapM_eq_ok_iff, List.map_map, List.map_map, List.map_map]
    apply List.map_congr_left
    intro tree htree
    exact classify_eq_ok (h tree htree)
  have hle : (trees.map (Tree.classify row)).count .positive ≤
      (trees.map (·.map Verdict.code)).length := by
    simpa using List.count_le_length (a := Verdict.positive) (l := trees.map (Tree.classify row))
  rw [vote, hcodes]
  simp only [bind, Except.bind, countP_isPositive, minus_eq_ok hle]
  simp [pure, Except.pure, Forest.classify, Tally.ofVerdicts]

end Guarded

namespace Table

open Guarded Growth

/-- A table that holds the samples of a training set, each one at its place. -/
structure Holds (x : Table) (t : TrainingSet) : Prop where
  size_eq : x.rows.size = t.size
  row_eq : ∀ (i : Nat) (s : Sample), t.samples[i]? = some s → x.rows[i]? = some s.features
  code_eq : ∀ (i : Nat) (s : Sample), t.samples[i]? = some s →
    x.codes[i]? = some s.verdict.code

/-- Rows and codes that make a training set hold its samples. -/
theorem holds_of_make {rows : List Features} {codes : List Nat} {t : TrainingSet}
    (h : TrainingSet.make rows codes = .ok t) :
    Holds ⟨rows.toArray, codes.toArray⟩ t := by
  have houtcome := TrainingSet.outcome_make rows codes
  rw [h] at houtcome
  obtain _ | _ | _ | ⟨hlearnable, -, rfl, hsamples⟩ := houtcome
  have hlength := hlearnable.length_eq
  rw [List.length_map] at hlength
  constructor
  · simp [TrainingSet.size, hsamples, TrainingSet.join, hlength]
  · intro i s hs
    rw [hsamples, TrainingSet.join, List.getElem?_zipWith_eq_some] at hs
    obtain ⟨row, v, hrow, -, rfl⟩ := hs
    simpa using hrow
  · intro i s hs
    rw [hsamples, TrainingSet.join, List.getElem?_zipWith_eq_some] at hs
    obtain ⟨row, v, -, hv, rfl⟩ := hs
    simp [hv]

variable {x : Table} {t : TrainingSet} {places : List Nat}

def samplesAt (t : TrainingSet) (places : List Nat) : List Sample :=
  places.filterMap (t.samples[·]?)

section samplesAt

theorem exists_sample {i : Nat} (hi : i < t.size) :
    ∃ s, t.samples[i]? = some s ∧ s ∈ t.samples := by
  have hsome : t.samples[i]? = some (t.samples.get ⟨i, hi⟩) := List.getElem?_eq_getElem hi
  exact ⟨_, hsome, List.mem_of_getElem? hsome⟩

theorem samplesAt_cons {i : Nat} {s : Sample} (hs : t.samples[i]? = some s)
    (places : List Nat) : samplesAt t (i :: places) = s :: samplesAt t places :=
  List.filterMap_cons_some hs

/-- What is read at places below the size is read from the samples there. -/
theorem mapM_samplesAt {β : Type} {f : Nat → Guarded β} {g : Sample → β}
    (h : ∀ i s, t.samples[i]? = some s → f i = .ok (g s))
    (hplaces : ∀ i ∈ places, i < t.size) :
    places.mapM f = .ok ((samplesAt t places).map g) := by
  induction places with
  | nil => rfl
  | cons i places ih =>
      obtain ⟨s, hs, -⟩ := exists_sample (hplaces i List.mem_cons_self)
      rw [List.mapM_cons, h i s hs, ih fun j hj => hplaces j (List.mem_cons_of_mem i hj),
        samplesAt_cons hs]
      rfl

theorem length_samplesAt (hplaces : ∀ i ∈ places, i < t.size) :
    (samplesAt t places).length = places.length := by
  induction places with
  | nil => rfl
  | cons i places ih =>
      obtain ⟨s, hs, -⟩ := exists_sample (hplaces i List.mem_cons_self)
      rw [samplesAt_cons hs, List.length_cons, List.length_cons,
        ih fun j hj => hplaces j (List.mem_cons_of_mem i hj)]

/-- All samples, one place after the other. -/
theorem samplesAt_range (t : TrainingSet) :
    samplesAt t (List.range t.size) = t.samples := by
  have hgeneral (front back : List Sample) :
      (List.range' front.length back.length).filterMap ((front ++ back)[·]?) = back := by
    induction back generalizing front with
    | nil => rfl
    | cons s back ih =>
        have hrest := ih (front ++ [s])
        simp only [List.append_assoc, List.singleton_append, List.length_append,
          List.length_singleton] at hrest
        simp [List.range'_succ, hrest]
  rw [samplesAt, List.range_eq_range']
  exact hgeneral [] t.samples

/-- The samples at those places where some question has an answer. -/
theorem samplesAt_filter (q : Sample → Bool) (places : List Nat) :
    samplesAt t (places.filter fun i => t.samples[i]?.any q) =
      (samplesAt t places).filter q := by
  induction places with
  | nil => rfl
  | cons i places ih =>
      simp only [samplesAt] at ih ⊢
      cases hs : t.samples[i]? with
      | none => simp [hs, ih]
      | some s => by_cases hq : q s <;> simp [hs, hq, ih]

end samplesAt

section steps

variable (h : x.Holds t)

include h

theorem feature_eq_ok {i j : Nat} {s : Sample} (hs : t.samples[i]? = some s)
    (hj : j < t.width) : x.feature i j = .ok (s.features.column j) := by
  have hsize := t.size_eq_width s (List.mem_of_getElem? hs)
  have hvalue : s.features[j]? = some (s.features.column j) := by
    simp [Features.column, hsize, hj]
  rw [feature, entry_eq_ok _ (h.row_eq i s hs)]
  exact entry_eq_ok _ hvalue

theorem code_eq_ok {i : Nat} {s : Sample} (hs : t.samples[i]? = some s) :
    x.code i = .ok s.verdict.code :=
  entry_eq_ok _ (h.code_eq i s hs)

variable (hplaces : ∀ i ∈ places, i < t.size)

include hplaces

theorem tally_eq_ok : x.tally places = .ok (Growth.tally (samplesAt t places)) := by
  have hcodes : places.mapM x.code =
      .ok ((samplesAt t places).map (·.verdict.code)) :=
    mapM_samplesAt (fun i s hs => code_eq_ok h hs) hplaces
  have hcount : ((samplesAt t places).map (·.verdict.code)).countP isPositive =
      (Growth.tally (samplesAt t places)).positive := by
    have hmap : (samplesAt t places).map (·.verdict.code) =
        ((samplesAt t places).map (·.verdict)).map (·.code) := by
      rw [List.map_map]
      rfl
    rw [hmap, countP_isPositive]
    rfl
  have hlength := length_samplesAt hplaces
  have hle : (Growth.tally (samplesAt t places)).positive ≤ places.length := by
    rw [← hlength, tally_positive]
    exact List.countP_le_length
  rw [Table.tally, hcodes]
  simp only [bind, Except.bind, hcount, minus_eq_ok hle]
  rw [← hlength, ← tally_total]
  rfl

theorem sortedColumn_eq_ok {j : Nat} (hj : j < t.width) :
    x.sortedColumn places j =
      .ok ((Growth.sortedColumn (samplesAt t places) j).map coded) := by
  have hentries : (places.mapM fun place => do
        let value ← x.feature place j
        let code ← x.code place
        return (value, code)) =
      .ok ((samplesAt t places).map fun s => (s.features.column j, s.verdict.code)) := by
    apply mapM_samplesAt _ hplaces
    intro i s hs
    rw [feature_eq_ok h hs hj, code_eq_ok h hs]
    rfl
  rw [Table.sortedColumn, hentries, Growth.sortedColumn, List.map_mergeSort, List.map_map]
  · rfl
  · intro a _ b _
    rfl

theorem bestSplit?_eq_ok {columns : List Nat} (hcolumns : ∀ j ∈ columns, j < t.width)
    (hne : places ≠ []) :
    x.bestSplit? places columns =
      .ok (Growth.bestSplit? (samplesAt t places) columns) := by
  have hstep : ∀ j ∈ columns, ∀ best, (do
        let column ← x.sortedColumn places j
        scan j (Growth.tally (samplesAt t places)) column best) =
      .ok ((candidates (samplesAt t places) j).foldl better best) := by
    intro j hj best
    have hcolumn : Growth.sortedColumn (samplesAt t places) j ≠ [] := by
      apply List.ne_nil_of_length_pos
      simpa [Growth.sortedColumn, length_samplesAt hplaces] using List.length_pos_iff.mpr hne
    rw [sortedColumn_eq_ok h hplaces (hcolumns j hj), ← countsOf_sortedColumn _ j]
    exact (scan_eq_ok j hcolumn best).trans (by rw [candidates, countsOf_sortedColumn])
  rw [Table.bestSplit?, tally_eq_ok h hplaces]
  simp only [bind, Except.bind]
  rw [Growth.bestSplit?, List.foldl_flatMap]
  exact foldlM_eq_ok hstep none

theorem split?_eq_ok (s : GrowthSettings) {columns : List Nat}
    (hcolumns : ∀ j ∈ columns, j < t.width) :
    x.split? s columns places (Growth.tally (samplesAt t places)) =
      .ok (Growth.split? s columns (samplesAt t places)) := by
  rw [Table.split?, Growth.split?]
  split
  · rfl
  · next hstop =>
      -- a node with a positive sample is a node with a sample
      have hne : places ≠ [] := by
        rintro rfl
        simp [samplesAt, Growth.tally, Tally.ofVerdicts] at hstop
      rw [bestSplit?_eq_ok h hplaces hcolumns hne]
      cases Growth.bestSplit? (samplesAt t places) columns with
      | none => rfl
      | some c => rfl

/-- Both parts are at places of the node. -/
theorem exists_part_eq_ok {c : Candidate} (hfeature : c.feature < t.width) :
    ∃ left right, x.part c places = .ok (left, right) ∧
      left ⊆ places ∧ right ⊆ places ∧
      samplesAt t left = (Growth.part c (samplesAt t places)).1 ∧
      samplesAt t right = (Growth.part c (samplesAt t places)).2 := by
  let turn (s : Sample) := Tree.goesLeft c.feature c.threshold s.features
  let goes (i : Nat) := t.samples[i]?.any turn
  have hturns : (places.mapM fun place => do
        let value ← x.feature place c.feature
        return (place, decide (value ≤ c.threshold))) =
      .ok (places.map fun i => (i, goes i)) := by
    apply mapM_eq_ok_map
    intro i hi
    obtain ⟨s, hs, -⟩ := exists_sample (hplaces i hi)
    rw [feature_eq_ok h hs hfeature]
    simp only [goes, hs]
    rfl
  refine ⟨places.filter goes, places.filter fun i => !goes i, ?_,
    List.filter_subset_self _, List.filter_subset_self _, ?_, ?_⟩
  · rw [Table.part, hturns]
    simp [bind, Except.bind, pure, Except.pure, List.partition_eq_filter_filter,
      List.filter_map, Function.comp_def]
  · rw [part_fst]
    exact samplesAt_filter turn places
  · rw [part_snd, ← samplesAt_filter (fun s => !turn s) places]
    congr 1
    apply List.filter_congr
    intro i hi
    obtain ⟨s, hs, -⟩ := exists_sample (hplaces i hi)
    simp [goes, hs]

end steps

/-- Growing gives the tree of the plain definition, with class codes at its leaves. -/
theorem grow_eq_ok (h : x.Holds t) (s : GrowthSettings) {columns : List Nat}
    (hcolumns : ∀ j ∈ columns, j < t.width) (hplaces : ∀ i ∈ places, i < t.size) :
    x.grow s columns s.maxDepth places =
      .ok ((Growth.grow s columns (samplesAt t places)).map (·.code)) := by
  rw [Growth.grow]
  generalize s.maxDepth = depth
  induction depth generalizing places with
  | zero =>
      rw [Table.grow, tally_eq_ok h hplaces]
      rfl
  | succ depth ih =>
      rw [Table.grow, tally_eq_ok h hplaces, parts]
      simp only [bind, Except.bind]
      rw [split?_eq_ok h hplaces s hcolumns]
      cases hsplit : Growth.split? s columns (samplesAt t places) with
      | none => rfl
      | some c =>
          have hbest := (of_split?_eq_some hsplit).2.2.2.1
          have hfeature := hcolumns c.feature (exists_takenAt_of_bestSplit? hbest).1
          obtain ⟨left, right, hpart, hleft, hright, hfst, hsnd⟩ :=
            exists_part_eq_ok h hplaces hfeature
          simp only [hpart]
          rw [ih fun i hi => hplaces i (hleft hi), ih fun i hi => hplaces i (hright hi), hfst,
            hsnd]
          rfl

end Table

end Credence
