/-
Where the ways to part samples come from.  Each of them was found in the samples in
ascending order of one feature, between two neighbours that differ in it, and it
counts the classes in front of that place and behind it.
-/
import Mathlib.Data.List.Sort
import Credence.Proofs.Growth

namespace Credence.Growth

section counts

theorem foldl_add (vs : List Verdict) (t : Tally) :
    vs.foldl Tally.add t =
      ⟨t.positive + vs.count .positive, t.total + vs.length⟩ := by
  induction vs generalizing t with
  | nil => rfl
  | cons v vs ih =>
      rw [List.foldl_cons, ih, Tally.add]
      rcases v with _ | _
      · simp
        omega
      · simp
        omega

/-- Counting one verdict after the other counts them all. -/
theorem foldl_add_empty (samples : List Sample) :
    (samples.map (·.verdict)).foldl Tally.add .empty = tally samples := by
  rw [foldl_add, Tally.empty, tally, Tally.ofVerdicts, Nat.zero_add, Nat.zero_add]

theorem tally_append_without (front back : List Sample) :
    (tally (front ++ back)).without (tally front) = tally back := by
  simp only [tally, Tally.ofVerdicts, Tally.without, List.map_append,
    List.count_append, List.length_append, Nat.add_sub_cancel_left]

theorem tally_perm {samples others : List Sample} (h : samples.Perm others) :
    tally samples = tally others := by
  have hmap := h.map (·.verdict)
  rw [tally, tally, Tally.ofVerdicts, Tally.ofVerdicts, hmap.count_eq,
    hmap.length_eq]

end counts

section order

variable (samples : List Sample) (feature : Nat)

/-- Samples in ascending order of one feature. -/
def inOrder : List Sample :=
  samples.mergeSort fun x y =>
    Number.totalLe (x.features.column feature) (y.features.column feature)

theorem inOrder_perm : (inOrder samples feature).Perm samples :=
  List.mergeSort_perm _ _

theorem inOrder_pairwise :
    (inOrder samples feature).Pairwise fun x y =>
      Number.totalLe (x.features.column feature) (y.features.column feature) := by
  apply List.pairwise_mergeSort
  · intro x y z
    exact Number.totalLe_trans
  · intro x y
    exact Number.totalLe_total _ _

theorem sortedColumn_eq :
    sortedColumn samples feature =
      (inOrder samples feature).map fun x =>
        (x.features.column feature, x.verdict) := by
  rw [sortedColumn, inOrder, List.map_mergeSort]
  intro x _ y _
  rfl

/-- Samples that are in order already stay as they are. -/
theorem candidates_of_pairwise
    (h : samples.Pairwise fun x y =>
      Number.totalLe (x.features.column feature) (y.features.column feature)) :
    candidates samples feature =
      candidatesFrom feature (tally samples) .empty
        (samples.map fun x => (x.features.column feature, x.verdict)) := by
  rw [candidates, sortedColumn_eq, inOrder, List.mergeSort_of_pairwise h]

end order

/-- A place between two neighbours in a list of samples. -/
structure Cut where
  before : List Sample
  last : Sample
  first : Sample
  after : List Sample

namespace Cut

variable (k : Cut)

/-- What stands in front of a place. -/
def front : List Sample := k.before ++ [k.last]

/-- What stands behind a place. -/
def back : List Sample := k.first :: k.after

/-- How many samples stand in front, but for one. -/
def position : Nat := k.before.length

theorem length_front : k.front.length = k.position + 1 := by
  rw [front, List.length_append, List.length_singleton, position]

/-- The way to part samples that the scan of their order makes out of a place, when
it has counted `left` before. -/
def candidate (feature : Nat) (whole left : Tally) : Candidate :=
  let left := (k.front.map (·.verdict)).foldl Tally.add left
  ⟨feature,
    (k.last.features.column feature + k.first.features.column feature) / 2.0,
    left, whole.without left⟩

end Cut

/-- A way to part samples that was found at a place in their order. -/
structure Candidate.TakenAt (c : Candidate) (samples : List Sample) (k : Cut) :
    Prop where
  inOrder_eq : inOrder samples c.feature = k.front ++ k.back
  differ : (k.last.features.column c.feature
    == k.first.features.column c.feature) = false
  threshold_eq : c.threshold = (k.last.features.column c.feature
    + k.first.features.column c.feature) / 2.0
  left_eq : c.left = tally k.front
  right_eq : c.right = tally k.back

section taken

variable {c : Candidate} {samples : List Sample} {k : Cut}

theorem Candidate.TakenAt.left_total (h : c.TakenAt samples k) :
    c.left.total = k.position + 1 := by
  rw [h.left_eq, tally_total, Cut.length_front]

theorem Candidate.TakenAt.left_pos (h : c.TakenAt samples k) : 0 < c.left.total := by
  rw [h.left_total]
  exact Nat.succ_pos _

theorem Candidate.TakenAt.right_pos (h : c.TakenAt samples k) : 0 < c.right.total := by
  rw [h.right_eq, tally_total, Cut.back]
  exact Nat.succ_pos _

/-- Every sample is counted on one of both sides. -/
theorem Candidate.TakenAt.total_add (h : c.TakenAt samples k) :
    c.left.total + c.right.total = samples.length := by
  rw [h.left_eq, h.right_eq, tally_total, tally_total, ← List.length_append,
    ← h.inOrder_eq, (inOrder_perm samples c.feature).length_eq]

end taken

/-- Whatever the scan finds, it finds at some place. -/
theorem exists_cut_of_mem_candidatesFrom {feature : Nat} {whole left : Tally}
    {ordered : List Sample} {c : Candidate}
    (h : c ∈ candidatesFrom feature whole left
      (ordered.map fun x => (x.features.column feature, x.verdict))) :
    ∃ k : Cut, ordered = k.front ++ k.back ∧
      (k.last.features.column feature
        == k.first.features.column feature) = false ∧
      c = k.candidate feature whole left := by
  induction ordered generalizing left with
  | nil => cases h
  | cons x ordered ih =>
      rcases ordered with _ | ⟨y, rest⟩
      · cases h
      · by_cases hfurther : c ∈ candidatesFrom feature whole (left.add x.verdict)
            ((y :: rest).map fun x => (x.features.column feature, x.verdict))
        · obtain ⟨k, hordered, hdiffer, rfl⟩ := ih hfurther
          refine ⟨{ k with before := x :: k.before }, ?_, hdiffer, rfl⟩
          rw [hordered]
          rfl
        · simp only [List.map_cons, candidatesFrom] at h hfurther
          split at h
          · exact absurd h hfurther
          · next hdiffer =>
              refine ⟨⟨[], x, y, rest⟩, rfl, Bool.eq_false_of_not_eq_true hdiffer, ?_⟩
              exact (List.mem_cons.mp h).resolve_right hfurther

/-- All ways to part samples by a feature have a place in their order. -/
theorem exists_takenAt_of_mem_candidates {samples : List Sample} {feature : Nat}
    {c : Candidate} (h : c ∈ candidates samples feature) :
    c.feature = feature ∧ ∃ k, c.TakenAt samples k := by
  rw [candidates, sortedColumn_eq] at h
  obtain ⟨k, hordered, hdiffer, rfl⟩ := exists_cut_of_mem_candidatesFrom h
  refine ⟨rfl, k, hordered, hdiffer, rfl, foldl_add_empty k.front, ?_⟩
  change (tally samples).without _ = _
  rw [foldl_add_empty, ← tally_perm (inOrder_perm samples feature), hordered,
    tally_append_without]

theorem mem_of_foldl_better {cs : List Candidate} {best : Option Candidate}
    {c : Candidate} (h : cs.foldl better best = some c) :
    best = some c ∨ c ∈ cs := by
  induction cs generalizing best with
  | nil => exact Or.inl h
  | cons b cs ih =>
      rcases ih h with hbest | hmem
      · rcases best with _ | a
        · right
          rw [Option.some.inj hbest]
          exact List.mem_cons_self
        · rw [better] at hbest
          split at hbest
          · right
            rw [Option.some.inj hbest]
            exact List.mem_cons_self
          · exact Or.inl hbest
      · exact Or.inr (List.mem_cons_of_mem b hmem)

/-- The way that is chosen is one of those that were found. -/
theorem exists_takenAt_of_bestSplit? {samples : List Sample} {columns : List Nat}
    {c : Candidate} (h : bestSplit? samples columns = some c) :
    c.feature ∈ columns ∧ ∃ k, c.TakenAt samples k := by
  rcases mem_of_foldl_better h with hnone | hmem
  · cases hnone
  · obtain ⟨feature, hfeature, hc⟩ := List.mem_flatMap.mp hmem
    obtain ⟨rfl, hk⟩ := exists_takenAt_of_mem_candidates hc
    exact ⟨hfeature, hk⟩

/-- What is known of a node that is parted. -/
theorem of_split?_eq_some {s : GrowthSettings} {columns : List Nat}
    {samples : List Sample} {c : Candidate}
    (h : split? s columns samples = some c) :
    s.minSplit ≤ samples.length ∧ 0 < (tally samples).positive ∧
      0 < (tally samples).negative ∧ bestSplit? samples columns = some c ∧
      ¬ c.impurity ≥ (tally samples).impurity := by
  rw [split?] at h
  split at h
  · cases h
  · next hstop =>
      simp only [Bool.or_eq_true, decide_eq_true_eq, not_or, tally_total] at hstop
      split at h
      · next b hbest =>
          split at h
          · cases h
          · next hgain =>
              cases h
              exact ⟨by omega, by omega, by omega, hbest, hgain⟩
      · cases h

end Credence.Growth
