/-
A split divides a random order of its items.  Its three parts follow on each other
in that order, no place is lost or dealt out twice, and every entry keeps the label
of its item.
-/
import Credence.Proofs.Split

namespace Credence

variable {α β γ δ : Type}

/-- No part takes more than is left for it, and together they take all. -/
structure Sizes.Fits (s : Sizes) (n : Nat) : Prop where
  train_le : s.train ≤ n
  validation_le : s.validation ≤ n - s.train
  total_eq : s.total = n

/-- The sizes fit whatever the shares are. -/
theorem Ratios.sizes_fits (r : Ratios) (n : Nat) : (r.sizes n).Fits n where
  train_le := r.train_sizes_le n
  validation_le := Nat.min_le_right _ _
  total_eq := r.total_sizes n

namespace Partition

/-- The columns of a part are equally long, and what stands in one row of them is
what the input has at the index of that row. -/
structure Aligned (p : Partition α β) (items : List α) (labels : List β) : Prop where
  length_items : p.items.length = p.indices.length
  length_labels : p.labels.length = p.indices.length
  item_eq : ∀ j i : Nat, p.indices[j]? = some i →
    ∃ item, p.items[j]? = some item ∧ items[i]? = some item
  label_eq : ∀ j i : Nat, p.indices[j]? = some i →
    ∃ label, p.labels[j]? = some label ∧ labels[i]? = some label

theorem aligned_of_mem_number {p : Partition α β} {items : List α}
    {labels : List β} (h : ∀ e ∈ p, e ∈ Entry.number items labels) :
    p.Aligned items labels := by
  have hrow : ∀ j i : Nat, p.indices[j]? = some i → ∃ e, p[j]? = some e ∧
      items[i]? = some e.item ∧ labels[i]? = some e.label := by
    intro j i hi
    rw [indices, List.getElem?_map, Option.map_eq_some_iff] at hi
    obtain ⟨e, he, rfl⟩ := hi
    exact ⟨e, he, Entry.mem_number.mp (h e (List.mem_of_getElem? he))⟩
  constructor
  · simp only [Partition.items, indices, List.length_map]
  · simp only [Partition.labels, indices, List.length_map]
  · intro j i hi
    obtain ⟨e, he, hitem, -⟩ := hrow j i hi
    exact ⟨e.item, by rw [Partition.items, List.getElem?_map, he]; rfl, hitem⟩
  · intro j i hi
    obtain ⟨e, he, -, hlabel⟩ := hrow j i hi
    exact ⟨e.label, by rw [Partition.labels, List.getElem?_map, he]; rfl, hlabel⟩

end Partition

namespace Split

/-- The places of all items of a split, one part after the other. -/
def indices (s : Split α β) : List Nat :=
  s.train.indices ++ s.validation.indices ++ s.test.indices

def sizes (s : Split α β) : Sizes :=
  ⟨s.train.length, s.validation.length, s.test.length⟩

/-- The parts of a split divide a random order of the input. -/
structure Divides (s : Split α β) (ratios : Ratios) (cap : Option Nat)
    (items : List α) (labels : List β) : Prop where
  order : ∃ order : List Nat, order.Perm (List.range items.length) ∧
    s.indices = order.take (capped cap items.length)
  nodup : s.indices.Nodup
  lt_length : ∀ i ∈ s.indices, i < items.length
  exhaustive : cap = none → s.indices.Perm (List.range items.length)
  train : s.train.Aligned items labels
  validation : s.validation.Aligned items labels
  test : s.test.Aligned items labels
  sizes_eq : s.sizes = ratios.sizes (capped cap items.length)

theorem indices_cut (sizes : Sizes) (entries : List (Entry α β)) :
    (cut sizes entries).indices = entries.map (·.index) := by
  simp only [indices, cut, Partition.indices, ← List.map_append]
  rw [List.append_assoc, ← List.drop_drop, List.take_append_drop,
    List.take_append_drop]

theorem limit_eq_take (cap : Option Nat) (xs : List α) :
    limit cap xs = xs.take (capped cap xs.length) := by
  cases cap with
  | none => exact List.take_length.symm
  | some most => rw [limit, capped, Nat.min_comm, ← List.take_eq_take_min]

theorem drawn_divides (ratios : Ratios) (cap : Option Nat) (w : Random.Words)
    {items : List α} {labels : List β} (hlength : items.length = labels.length) :
    (drawn ratios cap w items labels).Divides ratios cap items labels := by
  have hindices : (drawn ratios cap w items labels).indices =
      places cap w items.length := by
    rw [drawn, indices_cut, map_index_draw cap w hlength]
  have horder := Random.shuffle_perm w (List.range items.length) 0
  constructor
  · refine ⟨_, horder, ?_⟩
    rw [hindices, places, limit_eq_take, Random.length_shuffle, List.length_range]
  · rw [hindices]
    exact nodup_places cap w _
  · intro i hi
    rw [hindices] at hi
    exact List.mem_range.mp (horder.mem_iff.mp (mem_of_mem_limit hi))
  · rintro rfl
    rw [hindices]
    exact horder
  · exact Partition.aligned_of_mem_number fun e he => mem_number_of_mem_train he
  · exact Partition.aligned_of_mem_number fun e he => mem_number_of_mem_validation he
  · exact Partition.aligned_of_mem_number fun e he => mem_number_of_mem_test he
  · rw [sizes, length_train hlength, length_validation hlength, length_test hlength]

end Split

section map

variable (f : α → γ) (g : β → δ)

def Entry.map (e : Entry α β) : Entry γ δ := ⟨e.index, f e.item, g e.label⟩

/-- What the slots hold if each item and each label is mapped. -/
def Slots.map (slots : Slots α β) : Slots γ δ :=
  Array.map (Option.map (Prod.map f g)) slots

def Split.map (s : Split α β) : Split γ δ where
  train := List.map (Entry.map f g) s.train
  validation := List.map (Entry.map f g) s.validation
  test := List.map (Entry.map f g) s.test

theorem Slots.fill_map (items : List α) (labels : List β) :
    fill (items.map f) (labels.map g) = (fill items labels).map f g := by
  simp only [fill, Slots.map, List.zip_map, List.map_map, List.map_toArray]
  rfl

theorem Slots.take_map (slots : Slots α β) (i : Nat) :
    (slots.map f g).take i =
      ((slots.take i).1.map (Prod.map f g), (slots.take i).2.map f g) := by
  have hheld : (slots.map f g).getD i none =
      (slots.getD i none).map (Prod.map f g) := by
    simp only [Array.getD_eq_getD_getElem?, Slots.map, Array.getElem?_map]
    cases slots[i]? with
    | none => rfl
    | some held => rfl
  have hleft : (slots.map f g).setIfInBounds i none =
      Slots.map f g (slots.setIfInBounds i none) := by
    rw [Slots.map, Slots.map, Array.map_setIfInBounds]
    rfl
  rw [take, hheld, hleft]
  rfl

theorem Split.put_map (sizes : Sizes) (rank : Nat) (e : Entry α β) (s : Split α β) :
    (s.map f g).put sizes rank (e.map f g) = (s.put sizes rank e).map f g := by
  rw [put, put]
  split
  · rfl
  · split
    · rfl
    · rfl

/-- Dealing out does not look at what it deals out. -/
theorem Split.deal_map (sizes : Sizes) (places : List Nat) (rank : Nat)
    (slots : Slots α β) :
    deal sizes places rank (slots.map f g) =
      (deal sizes places rank slots).map f g := by
  induction places generalizing rank slots with
  | nil => rfl
  | cons index places ih =>
      simp only [deal, Slots.take_map, ih]
      cases (slots.take index).1 with
      | none => rfl
      | some pair => exact put_map f g sizes rank ⟨index, pair.1, pair.2⟩ _

theorem Split.make_map (ratios : Ratios) (cap : Option Nat) (w : Random.Words)
    (items : List α) (labels : List β) :
    make ratios cap w (items.map f) (labels.map g) =
      (make ratios cap w items labels).map (Split.map f g) := by
  simp only [make, List.length_map, Slots.fill_map, deal_map]
  split
  · cases ratios.problem? with
    | none => rfl
    | some problem => rfl
  · rfl

end map

namespace Split

/-- Items with as many labels are divided by any shares that hold and with any random
words, others are refused, and what the items and labels are does not matter. -/
theorem make_divides (ratios : Ratios) (cap : Option Nat) (w : Random.Words)
    (items : List α) (labels : List β) :
    (items.length = labels.length → ratios.problem? = none →
      ∃ s, make ratios cap w items labels = .ok s ∧
        s.Divides ratios cap items labels) ∧
    (items.length ≠ labels.length → make ratios cap w items labels =
      .error (.lengthMismatch items.length labels.length)) ∧
    (∀ (γ δ : Type) (f : α → γ) (g : β → δ),
      make ratios cap w (items.map f) (labels.map g) =
        (make ratios cap w items labels).map (Split.map f g)) ∧
    ∀ n, (ratios.sizes n).Fits n := by
  refine ⟨?_, ?_, ?_, ratios.sizes_fits⟩
  · intro hlength hvalid
    exact ⟨_, make_eq_ok cap w hvalid hlength, drawn_divides ratios cap w hlength⟩
  · intro hlength
    rw [make, if_neg hlength]
  · intro γ δ f g
    exact make_map f g ratios cap w items labels

/-- Five out of seven items, and two items with one label. -/
theorem make_divides_five_of_seven :
    [1, 2, 3, 4, 5, 6, 7].length = "aababba".toList.length ∧
      Ratios.standard.problem? = none ∧
      (∃ s, make Ratios.standard (some 5) (Random.cycle [2718281828, 3141592653])
          [1, 2, 3, 4, 5, 6, 7] "aababba".toList = .ok s ∧
        s.Divides Ratios.standard (some 5) [1, 2, 3, 4, 5, 6, 7]
          "aababba".toList) ∧
      [1, 2].length ≠ ['a'].length ∧
      make Ratios.standard none (Random.cycle [0]) [1, 2] ['a'] =
        .error (.lengthMismatch 2 1) :=
  ⟨rfl, by decide +kernel,
    (make_divides Ratios.standard (some 5) (Random.cycle [2718281828, 3141592653])
      [1, 2, 3, 4, 5, 6, 7] "aababba".toList).1 rfl (by decide +kernel),
    by decide,
    (make_divides Ratios.standard none (Random.cycle [0]) [1, 2] ['a']).2.1
      (by decide)⟩

end Split

end Credence
