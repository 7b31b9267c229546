/-
A shuffle only moves entries.  Which entry goes where depends on the random words
and the number of entries, and not on the entries themselves: it is one swap after
the other, each with a place that was passed before.
-/
import Credence.Proofs.Random.Choices

namespace Credence.Random

variable {α β : Type}

theorem swapIfInBounds_perm (xs : Array α) (i j : Nat) :
    (xs.swapIfInBounds i j).Perm xs := by
  rw [Array.swapIfInBounds_def]
  split
  · split
    · exact Array.swap_perm _ _
    · exact Array.Perm.refl xs
  · exact Array.Perm.refl xs

theorem map_swapIfInBounds (f : α → β) (xs : Array α) (i j : Nat) :
    (xs.map f).swapIfInBounds i j = (xs.swapIfInBounds i j).map f := by
  apply Array.ext
  · simp
  · intro k _ _
    simp only [Array.getElem_swapIfInBounds, Array.getElem_map, Array.size_map]
    split
    · rfl
    · split
      · rfl
      · rfl

theorem foldl_shuffleStep_perm (w : Words) (places : List Nat)
    (s : Array α × Choices) :
    (places.foldl (shuffleStep w) s).1.Perm s.1 := by
  induction places generalizing s with
  | nil => exact Array.Perm.refl s.1
  | cons i places ih =>
      exact (ih (shuffleStep w s i)).trans (swapIfInBounds_perm s.1 i _)

/-- The choices are made without a look at the entries. -/
theorem foldl_shuffleStep_map (w : Words) (f : α → β) (places : List Nat)
    (xs : Array α) (c : Choices) :
    places.foldl (shuffleStep w) (xs.map f, c) =
      ((places.foldl (shuffleStep w) (xs, c)).1.map f,
        (places.foldl (shuffleStep w) (xs, c)).2) := by
  induction places generalizing xs c with
  | nil => rfl
  | cons i places ih =>
      have hstep : shuffleStep w (xs.map f, c) i =
          ((shuffleStep w (xs, c) i).1.map f, (shuffleStep w (xs, c) i).2) := by
        simp only [shuffleStep, map_swapIfInBounds]
      rw [List.foldl_cons, hstep, ih, List.foldl_cons]

/-- The place that the entry at `i` is swapped with. -/
def partner (w : Words) (position i : Nat) : Nat :=
  ((Choices.after w position i).next w (i + 1)).1

theorem partner_le (w : Words) (position i : Nat) : partner w position i ≤ i :=
  Nat.le_of_lt_succ ((Choices.after_within w position i).next w).1

theorem foldl_shuffleStep_range (w : Words) (position n : Nat) (xs : Array α) :
    (List.range n).foldl (shuffleStep w) (xs, ⟨0, 1, position⟩) =
      ((List.range n).foldl
          (fun xs i => xs.swapIfInBounds i (partner w position i)) xs,
        Choices.after w position n) := by
  induction n with
  | zero => rfl
  | succ n ih =>
      rw [List.range_succ, List.foldl_append, ih, List.foldl_append,
        Choices.after_succ]
      rfl

/-- One swap after the other, each with a partner of its own. -/
def swaps (partner : Nat → Nat) (xs : List α) : List α :=
  ((List.range xs.length).foldl (fun xs i => xs.swapIfInBounds i (partner i))
    xs.toArray).toList

/-- A shuffle is one swap after the other, and no swap reaches out of the list. -/
theorem exists_shuffle_eq_swaps (w : Words) (xs : List α) (position : Nat) :
    ∃ partner : Nat → Nat, (∀ i < xs.length, partner i < xs.length) ∧
      (shuffle w xs position).1 = swaps partner xs := by
  refine ⟨partner w position, ?_, ?_⟩
  · intro i hi
    exact Nat.lt_of_le_of_lt (partner_le w position i) hi
  · rw [shuffle, foldl_shuffleStep_range, swaps]

theorem shuffle_perm (w : Words) (xs : List α) (position : Nat) :
    (shuffle w xs position).1.Perm xs :=
  (foldl_shuffleStep_perm w (List.range xs.length)
    (xs.toArray, ⟨0, 1, position⟩)).toList

@[simp] theorem length_shuffle (w : Words) (xs : List α) (position : Nat) :
    (shuffle w xs position).1.length = xs.length :=
  (shuffle_perm w xs position).length_eq

theorem shuffle_map (w : Words) (f : α → β) (xs : List α) (position : Nat) :
    (shuffle w (xs.map f) position).1 = (shuffle w xs position).1.map f := by
  have hfold := foldl_shuffleStep_map w f (List.range xs.length) xs.toArray
    ⟨0, 1, position⟩
  rw [List.map_toArray] at hfold
  simp only [shuffle, List.length_map, hfold, Array.toList_map]

end Credence.Random
